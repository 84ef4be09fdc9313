/-
# The identifiers that a naming admits

An identifier is admitted by a naming when it is a name over `A–Z a–z 0–9 _`,
no reserved word in any case, and opens with a letter or `_` where that is
demanded (`Naming.Admits`).  The two ways of making an identifier, cleaning a
free name and numbering the stem, give admitted ones (`clean?_admits`,
`generated_admits`), and cleaning an admitted identifier gives it back
(`Admits.clean?`).

What a naming adds to a name must not spell a reserved word again.  It adds
nothing without a `_`, so it is enough that no reserved word has one and that
the stem is a name (`Naming.Sound`); the namings of all kinds are such
(`Kind.naming_sound`).
-/

import CodeDiagram.Plan.Naming
import CodeDiagram.Proofs.Text.Trim

namespace CodeDiagram
namespace Identifier

variable {c : Char} {s name id : String}

/-! ### Letters -/

theorem isLetter_of_isDigit (h : c.isDigit = true) : isLetter c = true := by
  rw [isLetter, Char.isAlphanum, h, Bool.or_true, Bool.true_or]

/-- A character of an identifier is no blank. -/
theorem isBlank_of_isLetter (h : isLetter c = true) : Text.isBlank c = false := by
  have hrange : 48 ≤ c.toNat ∧ c.toNat ≤ 122 := by
    delta isLetter Char.isAlphanum Char.isAlpha Char.isUpper Char.isLower at h
    simp only [Char.isDigit, Bool.or_eq_true, Bool.and_eq_true, decide_eq_true_eq, beq_iff_eq,
      ge_iff_le, UInt32.le_iff_toNat_le, Char.toNat_val] at h
    rcases h with ((⟨h₁, h₂⟩ | ⟨h₁, h₂⟩) | ⟨h₁, h₂⟩) | rfl
    · exact ⟨le_trans (by decide) h₁, le_trans h₂ (by decide)⟩
    · exact ⟨le_trans (by decide) h₁, le_trans h₂ (by decide)⟩
    · exact ⟨le_trans (by decide) h₁, le_trans h₂ (by decide)⟩
    · decide
  simp only [Text.isBlank, Bool.or_eq_false_iff, Bool.and_eq_false_iff, decide_eq_false_iff_not,
    beq_eq_false_iff_ne]
  omega

/-- A letter or a digit is no blank. -/
theorem isBlank_of_isAlphanum (h : c.isAlphanum = true) : Text.isBlank c = false :=
  isBlank_of_isLetter (by rw [isLetter, h, Bool.true_or])

theorem isValid_iff : isValid s = true ↔ s.toList ≠ [] ∧ ∀ c ∈ s.toList, isLetter c = true := by
  rw [isValid, Bool.and_eq_true, Bool.not_eq_true', List.isEmpty_eq_false_iff, List.all_eq_true]

/-- An identifier is trimmed. -/
theorem trim_of_isValid (h : isValid s = true) : Text.trim s = s :=
  Text.trim_eq_self fun c hc => isBlank_of_isLetter ((isValid_iff.1 h).2 c hc)

theorem strip_of_isValid (h : isValid s = true) : strip s = s := by
  rw [strip, List.filter_eq_self.2 (isValid_iff.1 h).2, String.ofList_toList]

/-- What is kept of a name is an identifier, unless nothing is kept. -/
theorem isValid_strip (h : (strip s).toList ≠ []) : isValid (strip s) = true := by
  refine isValid_iff.2 ⟨h, fun c hc => ?_⟩
  rw [strip, String.toList_ofList] at hc
  exact (List.mem_filter.1 hc).2

theorem isValid_append {s t : String} (hs : isValid s = true)
    (ht : ∀ c ∈ t.toList, isLetter c = true) : isValid (s ++ t) = true := by
  obtain ⟨hne, hall⟩ := isValid_iff.1 hs
  rw [isValid_iff, String.toList_append]
  refine ⟨fun hnil => hne (List.append_eq_nil_iff.1 hnil).1, fun c hc => ?_⟩
  rcases List.mem_append.1 hc with hc | hc
  · exact hall c hc
  · exact ht c hc

/-- Whether an identifier opens with a letter or `_` does not depend on what follows it. -/
theorem head?_append (hs : isValid s = true) (t : String) :
    (s ++ t).toList.head? = s.toList.head? := by
  rw [String.toList_append]
  cases hcs : s.toList with
  | nil => exact absurd hcs (isValid_iff.1 hs).1
  | cons c cs => rfl

namespace Naming

variable {naming : Naming}

/-- The text can stand for an element: a name that is not reserved, with a letter or `_` in front
where one is demanded. -/
structure Admits (naming : Naming) (s : String) : Prop where
  valid : isValid s = true
  unreserved : naming.isReserved s = false
  opens : naming.leadingLetter = true → s.toList.head?.any isOpening = true

/-- What the naming adds to a name spells no reserved word: the stem is a name with a letter or
`_` in front, and no reserved word has a `_`. -/
structure Sound (naming : Naming) : Prop where
  stem_valid : isValid naming.stem = true
  stem_opens : naming.stem.toList.head?.any isOpening = true
  reserved_plain : ∀ word ∈ naming.reserved, '_' ∉ word.toList

/-! ### What cleaning gives -/

/-- A text with a `_` is not reserved. -/
theorem Sound.unreserved (h : naming.Sound) (hs : '_' ∈ s.toList) :
    naming.isReserved s = false := by
  rw [Bool.eq_false_iff, isReserved, Ne, List.contains_iff_mem]
  intro hmem
  apply h.reserved_plain _ hmem
  rw [String.toList_ofList]
  exact List.mem_map.2 ⟨'_', hs, rfl⟩

theorem isValid_withOpening (h : naming.Sound) (hs : isValid s = true) :
    isValid (naming.withOpening s) = true := by
  unfold withOpening
  split
  · rw [String.append_assoc]
    refine isValid_append h.stem_valid fun c hc => ?_
    rw [String.toList_append, List.mem_append] at hc
    rcases hc with hc | hc
    · rw [List.mem_singleton.1 hc]
      rfl
    · exact (isValid_iff.1 hs).2 c hc
  · exact hs

theorem withOpening_opens (h : naming.Sound) (hlead : naming.leadingLetter = true) :
    (naming.withOpening s).toList.head?.any isOpening = true := by
  unfold withOpening
  split_ifs with hdigit
  · rw [String.append_assoc, head?_append h.stem_valid]
    exact h.stem_opens
  · rw [hlead, Bool.true_and, Bool.not_eq_true', Bool.not_eq_false] at hdigit
    exact hdigit

/-- Marking a reserved word leaves a text that is admitted, if the text is a name and opens as
demanded. -/
theorem admits_withoutReserved (h : naming.Sound) (hs : isValid s = true)
    (hopens : naming.leadingLetter = true → s.toList.head?.any isOpening = true) :
    naming.Admits (naming.withoutReserved s) := by
  unfold withoutReserved
  split_ifs with hreserved
  · refine ⟨isValid_append hs fun c hc => ?_, h.unreserved ?_, ?_⟩
    · rw [List.mem_singleton.1 hc]
      rfl
    · rw [String.toList_append]
      exact List.mem_append_right _ (List.mem_singleton.2 rfl)
    · rw [head?_append hs]
      exact hopens
  · exact ⟨hs, Bool.eq_false_iff.2 hreserved, hopens⟩

/-- **Cleaning gives admitted identifiers.** -/
theorem clean?_admits (h : naming.Sound) (hclean : naming.clean? name = some id) :
    naming.Admits id := by
  simp only [clean?] at hclean
  split_ifs at hclean with hempty
  rw [← Option.some.inj hclean]
  have hkept : isValid (strip name) = true :=
    isValid_strip fun hnil => hempty (List.isEmpty_iff.2 hnil)
  exact admits_withoutReserved h (isValid_withOpening h hkept) (withOpening_opens h)

/-- Cleaning only adds to a name what the naming demands. -/
theorem clean?_of_isValid (h : isValid s = true) :
    naming.clean? s = some (naming.withoutReserved (naming.withOpening s)) := by
  have hempty : s.toList.isEmpty = false := List.isEmpty_eq_false_iff.2 (isValid_iff.1 h).1
  rw [clean?, strip_of_isValid h, hempty]
  rfl

/-- **Cleaning keeps admitted identifiers.** -/
theorem Admits.clean? (h : naming.Admits id) : naming.clean? id = some id := by
  have hopening : naming.withOpening id = id := by
    unfold withOpening
    split_ifs with hdigit
    · rw [Bool.and_eq_true] at hdigit
      rw [h.opens hdigit.1] at hdigit
      cases hdigit.2
    · rfl
  have hreserved : naming.withoutReserved id = id := by
    rw [withoutReserved, h.unreserved]
    rfl
  rw [clean?_of_isValid h.valid, hopening, hreserved]

/-- **Generated names are admitted.** -/
theorem generated_admits (h : naming.Sound) (n : Nat) : naming.Admits (naming.generated n) := by
  have hdigits : ∀ c ∈ (toString n).toList, isLetter c = true := by
    intro c hc
    rw [Nat.toString_eq_repr, Nat.toList_repr] at hc
    exact isLetter_of_isDigit (Nat.isDigit_of_mem_toDigits (by decide) (by decide) hc)
  unfold generated
  rw [String.append_assoc]
  refine ⟨isValid_append h.stem_valid fun c hc => ?_, h.unreserved ?_, fun _ => ?_⟩
  · rw [String.toList_append, List.mem_append] at hc
    rcases hc with hc | hc
    · rw [List.mem_singleton.1 hc]
      rfl
    · exact hdigits c hc
  · rw [String.toList_append, String.toList_append]
    exact List.mem_append_right _ (List.mem_append_left _ (List.mem_singleton.2 rfl))
  · rw [head?_append h.stem_valid]
    exact h.stem_opens

theorem Admits.trim (h : naming.Admits id) : Text.trim id = id := trim_of_isValid h.valid

end Naming
end Identifier

/-- The marks that a kind adds to a name spell none of its reserved words. -/
theorem Kind.naming_sound (kind : Kind) : kind.naming.Sound := by
  cases kind <;> exact ⟨by decide, by decide, by decide⟩

end CodeDiagram
