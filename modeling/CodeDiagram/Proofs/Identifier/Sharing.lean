/-
# When two elements share an identifier

A naming adds a mark to some names, and the marked name can be the very name
that another element has: `end` becomes `end_`, and `end_` is kept as it is, so
that a repaired name needs no repair.

| kept of the earlier name | kept of the later name | they share an identifier |
| --- | --- | --- |
| `s` | `t` | when `s = t`, or one is the other with its mark |
| anything | nothing | never |
| nothing | `t` | only when `t` spells a generated name |

The entries of a table are a history of declarations (`History`), and each new
entry is compared with those before it (`History.pairwise_sharing`).
-/

import CodeDiagram.Proofs.Identifier.Fresh

namespace CodeDiagram
namespace Identifier

/-- Blanks around a name are not kept anyway. -/
theorem strip_trim (name : String) : strip (Text.trim name) = strip name := by
  rw [strip, strip, Text.trim, String.toList_ofList, Text.filter_trimChars]
  intro c hblank
  rw [Bool.eq_false_iff]
  intro hletter
  rw [isBlank_of_isLetter hletter] at hblank
  cases hblank

namespace Naming

variable {naming : Naming} {name s t : String} {n : Nat}

/-- What is kept of a name with all that the naming adds to it. -/
def marked (naming : Naming) (s : String) : String :=
  naming.withoutReserved (naming.withOpening s)

/-- `t` is the kept name `s` with a mark: the stem before a name that opens as it may not, or a `_`
after a reserved word. -/
inductive Marks (naming : Naming) (s : String) : String → Prop
  | opening (hlead : naming.leadingLetter = true)
      (hopens : s.toList.head?.any isOpening = false) :
      Marks naming s (naming.stem ++ "_" ++ s)
  | reserved (hopens : naming.leadingLetter = true → s.toList.head?.any isOpening = true)
      (hreserved : naming.isReserved s = true) :
      Marks naming s (s ++ "_")

theorem clean?_of_strip_eq (h : strip name = "") : naming.clean? name = none := by
  rw [clean?, h]
  rfl

theorem clean?_of_strip_ne (h : strip name ≠ "") :
    naming.clean? name = some (naming.marked (strip name)) := by
  have hkept : (strip name).toList.isEmpty = false :=
    List.isEmpty_eq_false_iff.2 (mt String.toList_eq_nil_iff.1 h)
  rw [clean?, hkept]
  rfl

theorem isValid_of_strip_ne (h : strip name ≠ "") : isValid (strip name) = true :=
  isValid_strip (mt String.toList_eq_nil_iff.1 h)

/-! ### Marks -/

theorem withOpening_of_opens
    (h : naming.leadingLetter = true → s.toList.head?.any isOpening = true) :
    naming.withOpening s = s := by
  rw [withOpening, if_neg]
  rw [Bool.and_eq_true, Bool.not_eq_true']
  rintro ⟨hlead, hopens⟩
  rw [h hlead] at hopens
  cases hopens

/-- A generated name, and any other text with the stem and `_` in front, is not reserved. -/
theorem Sound.unreserved_stem (h : naming.Sound) (s : String) :
    naming.isReserved (naming.stem ++ "_" ++ s) = false := by
  apply h.unreserved
  rw [String.toList_append, String.toList_append]
  exact List.mem_append_left _ (List.mem_append_right _ (List.mem_singleton.2 rfl))

theorem Marks.marked_eq (h : naming.Sound) (hmarks : naming.Marks s t) : naming.marked s = t := by
  cases hmarks with
  | opening hlead hopens =>
      rw [marked, withOpening, hlead, hopens]
      exact if_neg (Bool.eq_false_iff.1 (h.unreserved_stem s))
  | reserved hopens hreserved =>
      rw [marked, withOpening_of_opens hopens]
      exact if_pos hreserved

/-- A name gets no mark or one. -/
theorem marked_eq_or_marks (h : naming.Sound) (s : String) :
    naming.marked s = s ∨ naming.Marks s (naming.marked s) := by
  by_cases hopens : naming.leadingLetter = true → s.toList.head?.any isOpening = true
  · by_cases hreserved : naming.isReserved s = true
    · right
      have hmarks := Marks.reserved hopens hreserved
      rwa [hmarks.marked_eq h]
    · left
      rw [marked, withOpening_of_opens hopens]
      exact if_neg hreserved
  · right
    obtain ⟨hlead, hopens⟩ := Classical.not_imp.1 hopens
    have hmarks := Marks.opening hlead (Bool.eq_false_iff.2 hopens)
    rwa [hmarks.marked_eq h]

/-- Marking adds nothing to a marked name. -/
theorem marked_marked (h : naming.Sound) (hs : isValid s = true) :
    naming.marked (naming.marked s) = naming.marked s := by
  have hclean : naming.clean? s = some (naming.marked s) := clean?_of_isValid hs
  have hadmits := clean?_admits h hclean
  exact Option.some.inj ((clean?_of_isValid hadmits.valid).symm.trans hadmits.clean?)

/-- The two kinds of mark never give the same text, since a reserved word has no `_`. -/
theorem reserved_mark_ne (h : naming.Sound) (hreserved : naming.isReserved s = true)
    (ht : t.toList ≠ []) : s ++ "_" ≠ naming.stem ++ "_" ++ t := by
  intro heq
  have hchars := congrArg (fun text : String => text.toList.dropLast) heq
  simp only [String.toList_append, show "_".toList = ['_'] from rfl, List.dropLast_concat,
    List.dropLast_append_of_ne_nil ht] at hchars
  have hmem : '_' ∈ s.toList := by
    rw [hchars]
    exact List.mem_append_left _ (List.mem_append_right _ (List.mem_singleton.2 rfl))
  rw [h.unreserved hmem] at hreserved
  cases hreserved

/-- **Names are marked alike exactly when they are equal or one is the other with its mark.** -/
theorem marked_eq_marked_iff (h : naming.Sound) (hs : isValid s = true) (ht : isValid t = true) :
    naming.marked s = naming.marked t ↔ s = t ∨ naming.Marks s t ∨ naming.Marks t s := by
  constructor
  · intro heq
    rcases marked_eq_or_marks h s with hself | hmarks
    · rcases marked_eq_or_marks h t with hself' | hmarks'
      · exact .inl (hself.symm.trans (heq.trans hself'))
      · rw [← heq, hself] at hmarks'
        exact .inr (.inr hmarks')
    · rcases marked_eq_or_marks h t with hself' | hmarks'
      · rw [heq, hself'] at hmarks
        exact .inr (.inl hmarks)
      · -- both are marked, with the same result, so with the same kind of mark
        left
        rw [← heq] at hmarks'
        generalize naming.marked s = u at hmarks hmarks'
        cases hmarks with
        | opening hlead hopens =>
            generalize hu : naming.stem ++ "_" ++ s = u at hmarks'
            cases hmarks' with
            | opening => exact String.append_right_inj _ |>.1 hu
            | reserved _ hreserved =>
                exact absurd hu.symm (reserved_mark_ne h hreserved (isValid_iff.1 hs).1)
        | reserved hopens hreserved =>
            generalize hu : s ++ "_" = u at hmarks'
            cases hmarks' with
            | opening => exact absurd hu (reserved_mark_ne h hreserved (isValid_iff.1 ht).1)
            | reserved => exact String.append_left_inj _ |>.1 hu
  · rintro (rfl | hmarks | hmarks)
    · rfl
    · rw [← hmarks.marked_eq h, marked_marked h hs]
    · rw [← hmarks.marked_eq h, marked_marked h ht]

/-- A kept name that ends up as a generated name spells it, or spells its number where a name may
not open with a digit. -/
theorem eq_of_marked_eq_generated (h : naming.Sound) (heq : naming.marked s = naming.generated n) :
    s = naming.generated n ∨ naming.leadingLetter = true ∧ s = toString n := by
  rcases marked_eq_or_marks h s with hself | hmarks
  · exact .inl (hself.symm.trans heq)
  · rw [heq, generated] at hmarks
    generalize hu : naming.stem ++ "_" ++ toString n = u at hmarks
    cases hmarks with
    | opening hlead _ => exact .inr ⟨hlead, (String.append_right_inj _ |>.1 hu).symm⟩
    | reserved _ hreserved =>
        refine absurd hu.symm (reserved_mark_ne h hreserved ?_)
        rw [Nat.toString_eq_repr, Nat.toList_repr]
        exact Nat.toDigits_ne_nil

end Naming

/-! ### Histories -/

/-- When two elements share an identifier.  The first was declared under the name `a` as `id`, and
the second, later, under the name `b` as `id'`. -/
structure Sharing (naming : Naming) (a b id id' : String) : Prop where
  /-- Where something is kept of both names, it is the same, or the one is the other with its
  mark. -/
  of_kept : strip a ≠ "" → strip b ≠ "" →
    (id = id' ↔ strip a = strip b ∨ naming.Marks (strip a) (strip b) ∨
      naming.Marks (strip b) (strip a))
  /-- A generated name is shared with no earlier element. -/
  of_generated : strip b = "" → id ≠ id'
  /-- A generated name is shared with a later element only if what is kept of its name spells a
  generated name. -/
  of_later : strip a = "" → strip b ≠ "" → id = id' → ∃ n,
    strip b = naming.generated n ∨ naming.leadingLetter = true ∧ strip b = toString n

/-- It does not matter whether the names are trimmed. -/
theorem Sharing.of_trimmed {naming : Naming} {a b id id' : String}
    (h : Sharing naming (Text.trim a) (Text.trim b) id id') : Sharing naming a b id id' := by
  obtain ⟨hkept, hgenerated, hlater⟩ := h
  rw [strip_trim, strip_trim] at hkept hlater
  rw [strip_trim] at hgenerated
  exact ⟨hkept, hgenerated, hlater⟩

/-- A list of declarations, the latest first.  Each name gets what is kept of it with its mark, or a
generated name that no element has yet. -/
inductive History (naming : Naming) : List Entry → Prop
  | nil : History naming []
  | kept {entries : List Entry} {name : String} (hkept : strip name ≠ "")
      (h : History naming entries) :
      History naming (⟨name, naming.marked (strip name)⟩ :: entries)
  | generated {entries : List Entry} {name : String} {n : Nat} (hnone : strip name = "")
      (hfree : naming.generated n ∉ entries.map Entry.id) (h : History naming entries) :
      History naming (⟨name, naming.generated n⟩ :: entries)

/-- **Declaring an element continues the history.** -/
theorem Table.history_declare {t : Table} (h : History t.naming t.entries) (raw : String) :
    History t.naming (t.declare raw).2.entries := by
  rw [declare_entries]
  by_cases hkept : strip (Text.trim raw) = ""
  · obtain ⟨⟨n, hid⟩, hfree⟩ := declare_of_clean?_eq_none (Naming.clean?_of_strip_eq hkept)
    rw [hid] at hfree ⊢
    exact .generated hkept hfree h
  · rw [declare_of_clean? (Naming.clean?_of_strip_ne hkept)]
    exact .kept hkept h

namespace History

variable {naming : Naming} {entries : List Entry}

/-- The identifier of an element is its marked name, or a generated name. -/
theorem id_of_mem (h : History naming entries) {entry : Entry} (hmem : entry ∈ entries) :
    strip entry.name ≠ "" ∧ entry.id = naming.marked (strip entry.name) ∨
      strip entry.name = "" ∧ ∃ n, entry.id = naming.generated n := by
  induction h with
  | nil => cases hmem
  | kept hkept _ ih =>
      rcases List.mem_cons.1 hmem with rfl | hmem
      · exact .inl ⟨hkept, rfl⟩
      · exact ih hmem
  | generated hnone _ _ ih =>
      rcases List.mem_cons.1 hmem with rfl | hmem
      · exact .inr ⟨hnone, _, rfl⟩
      · exact ih hmem

/-- What a new element with something kept of its name shares with an earlier one. -/
theorem sharing_of_kept (hsound : naming.Sound) (h : History naming entries) {earlier : Entry}
    (hmem : earlier ∈ entries) {name : String} (hkept : strip name ≠ "") :
    Sharing naming earlier.name name earlier.id (naming.marked (strip name)) := by
  refine ⟨fun hearlier _ => ?_, fun hnone => absurd hnone hkept, fun hearlier _ hsame => ?_⟩
  · rcases h.id_of_mem hmem with ⟨_, hid⟩ | ⟨hnone, _⟩
    · rw [hid, Naming.marked_eq_marked_iff hsound (Naming.isValid_of_strip_ne hearlier)
        (Naming.isValid_of_strip_ne hkept)]
    · exact absurd hnone hearlier
  · rcases h.id_of_mem hmem with ⟨hkept', _⟩ | ⟨_, n, hid⟩
    · exact absurd hearlier hkept'
    · exact ⟨n, Naming.eq_of_marked_eq_generated hsound (hsame.symm.trans hid)⟩

/-- A new element with a generated name shares it with no earlier one. -/
theorem sharing_of_free {earlier : Entry} {name id : String} (hnone : strip name = "")
    (hfree : id ∉ entries.map Entry.id) (hmem : earlier ∈ entries) :
    Sharing naming earlier.name name earlier.id id := by
  refine ⟨fun _ hkept => absurd hnone hkept, fun _ hsame => hfree ?_,
    fun _ hkept => absurd hnone hkept⟩
  rw [← hsame]
  exact List.mem_map_of_mem hmem

/-- **Two elements of a history share an identifier only as the table says.** -/
theorem pairwise_sharing (hsound : naming.Sound) (h : History naming entries) :
    entries.Pairwise fun later earlier =>
      Sharing naming earlier.name later.name earlier.id later.id := by
  induction h with
  | nil => exact .nil
  | kept hkept h ih =>
      exact .cons (fun _ hmem => sharing_of_kept hsound h hmem hkept) ih
  | generated hnone hfree _ ih =>
      exact .cons (fun _ hmem => sharing_of_free hnone hfree hmem) ih

end History
end Identifier
end CodeDiagram
