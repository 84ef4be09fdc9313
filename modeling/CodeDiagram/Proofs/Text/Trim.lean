/-
# Trimming

Trimming takes nothing but blanks (`mem_trimChars`), so a trimmed text that
still holds only blanks is empty (`trim_eq_empty_iff`), and a text without any
blank stays as it is (`trim_eq_self`).  Blanks put around a text are trimmed off
again (`trimChars_append_blanks`), and trimming stops on both sides of a part
with no blank at its ends (`trimChars_around`).  So a text is what is left of it
with blanks around (`exists_blanks_around`), and trimming twice trims no more
(`trimChars_trimChars`).
-/

import CodeDiagram.Text.Blank
import CodeDiagram.Proofs.Text.Span

namespace CodeDiagram
namespace Text

variable {p : Char → Bool} {c : Char} {cs xs ys core : List Char} {s : String}

theorem mem_dropWhile_of_not (hc : c ∈ cs) (hp : p c = false) : c ∈ cs.dropWhile p := by
  rw [← List.takeWhile_append_dropWhile (p := p) (l := cs), List.mem_append] at hc
  rcases hc with htake | hdrop
  · rw [List.mem_takeWhile_imp htake] at hp
    cases hp
  · exact hdrop

theorem mem_dropTailWhile_of_not (hc : c ∈ cs) (hp : p c = false) : c ∈ dropTailWhile p cs := by
  rw [dropTailWhile, List.mem_reverse]
  exact mem_dropWhile_of_not (List.mem_reverse.2 hc) hp

/-- **Trimming takes nothing but blanks.** -/
theorem mem_trimChars (hc : c ∈ cs) (hblank : isBlank c = false) : c ∈ trimChars cs :=
  mem_dropTailWhile_of_not (mem_dropWhile_of_not hc hblank) hblank

theorem trimChars_eq_nil_iff : trimChars cs = [] ↔ cs.all isBlank = true := by
  constructor
  · intro hnil
    rw [List.all_eq_true]
    intro c hc
    cases hblank : isBlank c with
    | true => rfl
    | false =>
        have hmem := mem_trimChars hc hblank
        rw [hnil] at hmem
        cases hmem
  · intro hall
    have hdrop : cs.dropWhile isBlank = [] :=
      List.dropWhile_eq_nil_iff.2 (List.all_eq_true.1 hall)
    rw [trimChars, hdrop]
    rfl

theorem dropWhile_eq_self (h : ∀ c ∈ cs, p c = false) : cs.dropWhile p = cs :=
  List.dropWhile_eq_self_iff.2 fun _ => Bool.eq_false_iff.1 (h _ (List.getElem_mem _))

theorem trimChars_eq_self (h : ∀ c ∈ cs, isBlank c = false) : trimChars cs = cs := by
  rw [trimChars, dropWhile_eq_self h, dropTailWhile, dropWhile_eq_self, List.reverse_reverse]
  exact fun c hc => h c (List.mem_reverse.1 hc)

/-- A text without blanks is trimmed. -/
theorem trim_eq_self (h : ∀ c ∈ s.toList, isBlank c = false) : trim s = s := by
  rw [trim, trimChars_eq_self h, String.ofList_toList]

/-- **Only a blank text is trimmed to nothing.** -/
theorem trim_eq_empty_iff : trim s = "" ↔ isBlankText s = true := by
  rw [isBlankText, ← trimChars_eq_nil_iff, ← String.toList_eq_nil_iff, trim, String.toList_ofList]

theorem filter_dropWhile {q : Char → Bool} (h : ∀ c, p c = true → q c = false) :
    (cs.dropWhile p).filter q = cs.filter q := by
  induction cs with
  | nil => rfl
  | cons c cs ih =>
      rw [List.dropWhile_cons]
      split_ifs with hc
      · rw [ih, List.filter_cons_of_neg (Bool.eq_false_iff.1 (h c hc))]
      · rfl

/-- Trimming does not show where blanks are left out anyway. -/
theorem filter_trimChars {q : Char → Bool} (h : ∀ c, isBlank c = true → q c = false) :
    (trimChars cs).filter q = cs.filter q := by
  rw [trimChars, dropTailWhile, List.filter_reverse, filter_dropWhile h, List.filter_reverse,
    List.reverse_reverse, filter_dropWhile h]

/-- What trimming leaves of a text is empty or not blank. -/
theorem isBlankText_trim (h : trim s ≠ "") : isBlankText (trim s) = false := by
  rw [Bool.eq_false_iff]
  intro hblank
  apply h
  rw [isBlankText, trim, String.toList_ofList, List.all_eq_true] at hblank
  rw [trim_eq_empty_iff, isBlankText, List.all_eq_true]
  intro c hc
  cases hc' : isBlank c with
  | true => rfl
  | false => exact hc'.symm.trans (hblank c (mem_trimChars hc hc'))

/-! ### Trimming a text made of parts -/

theorem dropWhile_append_of_ends (h : Span.Ends p ys) :
    (xs ++ ys).dropWhile p = xs.dropWhile p ++ ys := by
  have hys : ys.dropWhile p = ys := Span.dropWhile_append (List.forall_mem_nil _) h
  rw [List.dropWhile_append]
  split
  · next hnil => rw [List.isEmpty_iff.1 hnil, hys, List.nil_append]
  · rfl

theorem dropTailWhile_append_of_ends (h : Span.Ends p xs.reverse) :
    dropTailWhile p (xs ++ ys) = xs ++ dropTailWhile p ys := by
  rw [dropTailWhile, List.reverse_append, dropWhile_append_of_ends h, List.reverse_append,
    List.reverse_reverse, dropTailWhile]

/-- **A run at the end is dropped down to what it follows.** -/
theorem dropTailWhile_eq_iff :
    dropTailWhile p cs = core ↔
      ∃ run, cs = core ++ run ∧ (∀ c ∈ run, p c = true) ∧ Span.Ends p core.reverse := by
  rw [dropTailWhile, List.reverse_eq_iff, Span.dropWhile_eq_iff]
  constructor
  · rintro ⟨run, hcs, hrun, hends⟩
    rw [List.reverse_eq_iff, List.reverse_append, List.reverse_reverse] at hcs
    exact ⟨run.reverse, hcs, fun c hc => hrun c (List.mem_reverse.1 hc), hends⟩
  · rintro ⟨run, rfl, hrun, hends⟩
    exact ⟨run.reverse, List.reverse_append, fun c hc => hrun c (List.mem_reverse.1 hc), hends⟩

/-- What is left before the characters behind the last `c` ends with it, or is empty. -/
theorem dropTailWhile_ne_eq_iff :
    dropTailWhile (· != c) cs = core ↔
      ∃ after, cs = core ++ after ∧ c ∉ after ∧ ∀ d ∈ core.getLast?, d = c := by
  rw [dropTailWhile_eq_iff]
  simp only [Span.Ends, bne_iff_ne, bne_eq_false_iff_eq, List.forall_mem_ne', List.head?_reverse]

theorem dropTailWhile_prefix (p : Char → Bool) (cs : List Char) : dropTailWhile p cs <+: cs := by
  obtain ⟨run, hcs, -⟩ := dropTailWhile_eq_iff.1 (rfl : dropTailWhile p cs = _)
  exact ⟨run, hcs.symm⟩

/-- **A text is what is left of it by trimming, with blanks around.** -/
theorem exists_blanks_around (cs : List Char) :
    ∃ front back, cs = front ++ (trimChars cs ++ back) ∧ (∀ c ∈ front, isBlank c = true) ∧
      ∀ c ∈ back, isBlank c = true := by
  obtain ⟨front, hcs, hfront, -⟩ := Span.dropWhile_eq_iff.1 (rfl : cs.dropWhile isBlank = _)
  obtain ⟨back, hrest, hback, -⟩ := dropTailWhile_eq_iff.1 (rfl : trimChars cs = _)
  exact ⟨front, back, hrest ▸ hcs, hfront, hback⟩

theorem trimChars_infix (cs : List Char) : trimChars cs <:+: cs := by
  obtain ⟨front, back, hcs, -⟩ := exists_blanks_around cs
  exact ⟨front, back, by rw [List.append_assoc, ← hcs]⟩

/-- A text with no blank at its ends is trimmed. -/
theorem trimChars_of_ends (hstart : Span.Ends isBlank cs) (hend : Span.Ends isBlank cs.reverse) :
    trimChars cs = cs := by
  have hdrop : cs.dropWhile isBlank = cs :=
    Span.dropWhile_eq_iff.2 ⟨[], rfl, List.forall_mem_nil _, hstart⟩
  rw [trimChars, hdrop]
  exact dropTailWhile_eq_iff.2 ⟨[], (List.append_nil cs).symm, List.forall_mem_nil _, hend⟩

theorem trimChars_blanks_append (h : ∀ c ∈ xs, isBlank c = true) :
    trimChars (xs ++ ys) = trimChars ys := by
  rw [trimChars, List.dropWhile_append_of_pos h, trimChars]

theorem trimChars_append_blanks (h : ∀ c ∈ ys, isBlank c = true) :
    trimChars (xs ++ ys) = trimChars xs := by
  have hreverse : ∀ c ∈ ys.reverse, isBlank c = true := fun c hc => h c (List.mem_reverse.1 hc)
  rw [trimChars, List.dropWhile_append]
  split
  · next hnil =>
    rw [trimChars, List.isEmpty_iff.1 hnil, List.dropWhile_eq_nil_iff.2 h]
  · rw [dropTailWhile, List.reverse_append, List.dropWhile_append_of_pos hreverse, trimChars,
      dropTailWhile]

/-- The first character is dropped only if all that follow it are. -/
theorem dropTailWhile_cons (p : Char → Bool) (c : Char) (cs : List Char) :
    dropTailWhile p (c :: cs) =
      if dropTailWhile p cs = [] then dropTailWhile p [c] else c :: dropTailWhile p cs := by
  simp only [dropTailWhile, List.reverse_cons, List.dropWhile_append, List.reverse_eq_nil_iff,
    List.isEmpty_iff, List.reverse_nil, List.nil_append]
  split_ifs
  · rfl
  · rw [List.reverse_append]
    rfl

/-- A text that opens with no blank is trimmed at its end only. -/
theorem trimChars_eq_dropTailWhile (h : Span.Ends isBlank cs) :
    trimChars cs = dropTailWhile isBlank cs := by
  have hdrop : cs.dropWhile isBlank = cs :=
    Span.dropWhile_eq_iff.2 ⟨[], rfl, List.forall_mem_nil _, h⟩
  rw [trimChars, hdrop]

theorem trimChars_cons (hc : isBlank c = false) (cs : List Char) :
    trimChars (c :: cs) = c :: dropTailWhile isBlank cs := by
  have hends : Span.Ends isBlank (c :: cs) := Span.ends_of_head? rfl hc
  have hkept : dropTailWhile isBlank [c] = [c] := by simp [dropTailWhile, hc]
  rw [trimChars_eq_dropTailWhile hends, dropTailWhile_cons, hkept]
  split_ifs with hnil
  · rw [hnil]
  · rfl

theorem trimChars_blank_cons (hc : isBlank c = true) (cs : List Char) :
    trimChars (c :: cs) = trimChars cs :=
  trimChars_blanks_append (List.forall_mem_singleton.2 hc)

/-- **Trimming stops at a part with no blank at its ends.** -/
theorem trimChars_around (hne : core ≠ []) (hstart : Span.Ends isBlank core)
    (hend : Span.Ends isBlank core.reverse) :
    trimChars (xs ++ (core ++ ys)) =
      xs.dropWhile isBlank ++ (core ++ dropTailWhile isBlank ys) := by
  have hreverse : Span.Ends isBlank (xs.dropWhile isBlank ++ core).reverse := by
    rw [List.reverse_append]
    exact hend.append_of_ne_nil (mt List.reverse_eq_nil_iff.1 hne) _
  rw [trimChars, dropWhile_append_of_ends (hstart.append_of_ne_nil hne ys), ← List.append_assoc,
    dropTailWhile_append_of_ends hreverse, List.append_assoc]

/-- Trimming leaves a trimmed text. -/
theorem trimChars_trimChars (cs : List Char) : trimChars (trimChars cs) = trimChars cs := by
  obtain ⟨back, hrest, -, hend⟩ := dropTailWhile_eq_iff.1 (rfl : trimChars cs = _)
  refine trimChars_of_ends (fun c hc => ?_) hend
  refine Span.ends_dropWhile isBlank cs c ?_
  rw [hrest, List.head?_append, Option.mem_def.1 hc]
  rfl

/-- What is trimmed opens with its first character that is no blank. -/
theorem head?_trimChars (cs : List Char) :
    (trimChars cs).head? = (cs.dropWhile isBlank).head? := by
  rw [trimChars]
  cases hdrop : cs.dropWhile isBlank with
  | nil => rfl
  | cons c rest =>
      have hc : isBlank c = false :=
        Span.ends_dropWhile isBlank cs c (Option.mem_def.2 (hdrop ▸ rfl))
      have hends : Span.Ends isBlank [c].reverse := Span.ends_of_head? rfl hc
      rw [← List.singleton_append, dropTailWhile_append_of_ends hends]
      rfl

/-- What follows a text does not show at its start, unless the text is blank. -/
theorem head?_trimChars_append (h : trimChars xs ≠ []) (ys : List Char) :
    (trimChars (xs ++ ys)).head? = (trimChars xs).head? := by
  have hdrop : xs.dropWhile isBlank ≠ [] := by
    intro hnil
    rw [trimChars, hnil] at h
    exact h rfl
  rw [head?_trimChars, head?_trimChars, List.dropWhile_append,
    if_neg (mt List.isEmpty_iff.1 hdrop)]
  obtain ⟨c, cs, hcons⟩ := List.exists_cons_of_ne_nil hdrop
  rw [hcons]
  rfl

end Text
end CodeDiagram
