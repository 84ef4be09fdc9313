/-
# Where a run of characters ends

A run is a list whose members all satisfy a predicate.  Dropping a run stops at
what ends it (`dropWhile_eq_iff`).  Where what follows does not go on with the
run, the two can be told apart again (`append_eq_append_iff`), so a text put
together from runs and from what ends them is read in one way only
(`append_eq_append_iff_of_run`).
-/

import Mathlib.Data.List.TakeWhile

namespace CodeDiagram

namespace Span

variable {α : Type} {p : α → Bool} {run run' rest rest' : List α}

/-- The list does not open with a member that satisfies `p`. -/
def Ends (p : α → Bool) (rest : List α) : Prop := ∀ a ∈ rest.head?, p a = false

/-- A run is taken up to the place where it ends. -/
theorem takeWhile_append (hrun : ∀ a ∈ run, p a = true) (hrest : Ends p rest) :
    (run ++ rest).takeWhile p = run := by
  rw [List.takeWhile_append_of_pos hrun]
  cases rest with
  | nil => exact List.append_nil run
  | cons a rest => rw [List.takeWhile_cons_of_neg (by simp [hrest a rfl]), List.append_nil]

/-- What is left begins where the run ends. -/
theorem dropWhile_append (hrun : ∀ a ∈ run, p a = true) (hrest : Ends p rest) :
    (run ++ rest).dropWhile p = rest := by
  rw [List.dropWhile_append_of_pos hrun]
  cases rest with
  | nil => rfl
  | cons a rest => exact List.dropWhile_cons_of_neg (by simp [hrest a rfl])

/-- What is left after a run does not go on with it. -/
theorem ends_dropWhile (p : α → Bool) (as : List α) : Ends p (as.dropWhile p) := by
  intro a ha
  have hhead := List.head?_dropWhile_not p as
  rw [Option.mem_def.1 ha] at hhead
  exact hhead

/-- **A run is dropped up to what ends it.** -/
theorem dropWhile_eq_iff {as : List α} :
    as.dropWhile p = rest ↔ ∃ run, as = run ++ rest ∧ (∀ a ∈ run, p a = true) ∧ Ends p rest := by
  constructor
  · rintro rfl
    exact ⟨as.takeWhile p, List.takeWhile_append_dropWhile.symm,
      fun _ ha => List.mem_takeWhile_imp ha, ends_dropWhile p as⟩
  · rintro ⟨run, rfl, hrun, hrest⟩
    exact dropWhile_append hrun hrest

/-- What is left behind the members before the first `a` starts with it, or is empty. -/
theorem dropWhile_ne_eq_iff [BEq α] [LawfulBEq α] {a : α} {as : List α} :
    as.dropWhile (· != a) = rest ↔
      ∃ before, as = before ++ rest ∧ a ∉ before ∧ ∀ b ∈ rest.head?, b = a := by
  rw [dropWhile_eq_iff]
  simp only [Ends, bne_iff_ne, bne_eq_false_iff_eq, List.forall_mem_ne']

theorem ends_of_head? {a : α} {as : List α} (h : as.head? = some a) (ha : p a = false) :
    Ends p as := by
  intro b hb
  rw [h] at hb
  rwa [← Option.some.inj hb]

/-- **A run and what ends it are read back.** -/
theorem append_eq_append_iff (hrun : ∀ a ∈ run, p a = true) (hrun' : ∀ a ∈ run', p a = true)
    (hrest : Ends p rest) (hrest' : Ends p rest') :
    run ++ rest = run' ++ rest' ↔ run = run' ∧ rest = rest' := by
  constructor
  · intro h
    constructor
    · rw [← takeWhile_append hrun hrest, h, takeWhile_append hrun' hrest']
    · rw [← dropWhile_append hrun hrest, h, dropWhile_append hrun' hrest']
  · rintro ⟨rfl, rfl⟩
    rfl

/-- A list all of whose members fail `p` ends a run. -/
theorem ends_of_forall_mem (h : ∀ a ∈ rest, p a = false) : Ends p rest :=
  fun a ha => h a (List.mem_of_mem_head? ha)

/-- Two texts that do not go on with a run do not go on with it together. -/
theorem Ends.append {u : List α} (ht : Ends p rest) (hu : Ends p u) : Ends p (rest ++ u) := by
  cases rest with
  | nil => exact hu
  | cons a rest => exact ht

theorem Ends.append_of_ne_nil (h : Ends p rest) (hne : rest ≠ []) (u : List α) :
    Ends p (rest ++ u) := by
  obtain ⟨a, rest, rfl⟩ := List.exists_cons_of_ne_nil hne
  exact h

end Span

namespace Text

variable {p : Char → Bool} {s s' t t' u : String}

/-- The text opens with a character that does not satisfy `p`. -/
def endsRun (p : Char → Bool) (t : String) : Bool := t.toList.head?.any fun c => !p c

theorem ends_append (h : endsRun p t = true) : Span.Ends p (t ++ u).toList := by
  intro c hc
  rw [endsRun] at h
  rw [String.toList_append] at hc
  cases ht : t.toList with
  | nil => simp [ht] at h
  | cons d ds =>
      rw [ht] at h hc
      obtain rfl : d = c := by simpa using hc
      simpa using h

/-- **A run of characters and what ends it are read back.** -/
theorem append_eq_append_iff_of_run (hs : ∀ c ∈ s.toList, p c = true)
    (hs' : ∀ c ∈ s'.toList, p c = true) (ht : Span.Ends p t.toList) (ht' : Span.Ends p t'.toList) :
    s ++ t = s' ++ t' ↔ s = s' ∧ t = t' := by
  simp only [← String.toList_inj, String.toList_append]
  exact Span.append_eq_append_iff hs hs' ht ht'

end Text
end CodeDiagram
