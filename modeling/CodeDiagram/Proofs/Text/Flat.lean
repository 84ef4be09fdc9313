/-
# Flat texts

A text is flat when its blanks are single spaces between other characters
(`IsFlat`):

| place | blanks there |
| --- | --- |
| at the ends | none |
| inside | spaces |
| behind a blank | none |

Flattening goes by the words of a text.  The same can be said of its blanks: the
runs of them are collapsed to a space each, and the ends are trimmed
(`flattenChars_eq_trimChars`).  So a flattened text is flat
(`isFlat_flattenChars`), and flat texts are those that flattening leaves as they
are (`flattenChars_eq_self_iff`).  A text stays flat when its characters are
written as words (`IsFlat.flatMap`).
-/

import CodeDiagram.Proofs.Text.Words
import CodeDiagram.Proofs.Text.Trim
import Mathlib.Data.List.Destutter

namespace CodeDiagram
namespace Text

variable {c d : Char} {cs : List Char}

/-- Not both are blanks. -/
def Apart (c d : Char) : Prop := isBlank c = true → isBlank d = false

instance : DecidableRel Apart :=
  fun c d => inferInstanceAs (Decidable (isBlank c = true → isBlank d = false))

/-- The text with each run of blanks written as one space. -/
def collapseChars (cs : List Char) : List Char :=
  (cs.map fun c => if isBlank c then ' ' else c).destutter Apart

/-- `collapseChars` on a string. -/
def collapse (s : String) : String := String.ofList (collapseChars s.toList)

/-- The blanks of the text are single spaces between other characters. -/
structure IsFlat (cs : List Char) : Prop where
  start : Span.Ends isBlank cs
  finish : Span.Ends isBlank cs.reverse
  spaces : ∀ c ∈ cs, isBlank c = true → c = ' '
  apart : cs.IsChain Apart

theorem apart_of_not_isBlank (hc : isBlank c = false) (d : Char) : Apart c d :=
  fun hblank => absurd (hc.symm.trans hblank) Bool.false_ne_true

theorem isChain_apart (h : ∀ c ∈ cs, isBlank c = false) : cs.IsChain Apart :=
  List.isChain_iff_forall_rel_of_append_cons_cons.2 fun _ d _ _ hcs _ => h d (by simp [hcs])

/-! ### Collapsing -/

/-- Of two blanks the first does not show. -/
theorem collapseChars_cons_of_blanks (hc : isBlank c = true) (hd : isBlank d = true)
    (cs : List Char) : collapseChars (c :: d :: cs) = collapseChars (d :: cs) := by
  have hspaces : ¬ Apart ' ' ' ' := by decide
  simp only [collapseChars, List.map_cons, hc, hd, if_true]
  rw [List.destutter_cons_cons, if_neg hspaces, List.destutter_cons']

/-- A blank that nothing blank follows shows as a space. -/
theorem collapseChars_blank_cons (hc : isBlank c = true) (hcs : Span.Ends isBlank cs) :
    collapseChars (c :: cs) = ' ' :: collapseChars cs := by
  cases cs with
  | nil => simp [collapseChars, hc]
  | cons d ds =>
      have hd : isBlank d = false := hcs d rfl
      have hapart : Apart ' ' d := fun _ => hd
      simp only [collapseChars, List.map_cons, hc, hd, if_true, Bool.false_eq_true, if_false]
      rw [List.destutter_cons_cons, if_pos hapart, List.destutter_cons']

/-- What is no blank shows as it is. -/
theorem collapseChars_cons (hc : isBlank c = false) (cs : List Char) :
    collapseChars (c :: cs) = c :: collapseChars cs := by
  cases cs with
  | nil => simp [collapseChars, hc]
  | cons d ds =>
      simp only [collapseChars, List.map_cons, hc, Bool.false_eq_true, if_false]
      rw [List.destutter_cons_cons, if_pos (apart_of_not_isBlank hc _),
        List.destutter_cons']

theorem ends_collapseChars (h : Span.Ends isBlank cs) : Span.Ends isBlank (collapseChars cs) := by
  cases cs with
  | nil => exact h
  | cons c cs =>
      rw [collapseChars_cons (h c rfl)]
      exact h

/-- What opens with a blank shows as a space and a text that opens with none. -/
theorem exists_collapseChars_blank (hc : isBlank c = true) (cs : List Char) :
    ∃ rest, collapseChars (c :: cs) = ' ' :: rest ∧ Span.Ends isBlank rest := by
  induction cs generalizing c with
  | nil =>
      have hends : Span.Ends isBlank ([] : List Char) :=
        Span.ends_of_forall_mem (List.forall_mem_nil _)
      exact ⟨[], collapseChars_blank_cons hc hends, hends⟩
  | cons d ds ih =>
      cases hd : isBlank d with
      | true =>
          rw [collapseChars_cons_of_blanks hc hd]
          exact ih hd
      | false =>
          have hends : Span.Ends isBlank (d :: ds) := Span.ends_of_head? rfl hd
          exact ⟨_, collapseChars_blank_cons hc hends, ends_collapseChars hends⟩

/-- A text of single spaces and other characters is not changed. -/
theorem collapseChars_eq_self (hspaces : ∀ c ∈ cs, isBlank c = true → c = ' ')
    (hapart : cs.IsChain Apart) : collapseChars cs = cs := by
  have hmap : (cs.map fun c => if isBlank c then ' ' else c) = cs := by
    refine (List.map_congr_left fun c hc => ?_).trans (List.map_id cs)
    split_ifs with hblank
    · exact (hspaces c hc hblank).symm
    · rfl
  rw [collapseChars, hmap, List.destutter_of_isChain Apart cs hapart]

/-! ### Flattening as collapsing and trimming -/

/-- Trimming does not see a blank that is put in front before the runs are collapsed. -/
theorem trimChars_collapseChars_blank_cons (hc : isBlank c = true) (cs : List Char) :
    trimChars (collapseChars (c :: cs)) = trimChars (collapseChars cs) := by
  have htrim : ∀ rest, trimChars (' ' :: rest) = trimChars rest := trimChars_blank_cons rfl
  cases cs with
  | nil =>
      rw [collapseChars_blank_cons hc (Span.ends_of_forall_mem (List.forall_mem_nil _)), htrim]
  | cons d ds =>
      cases hd : isBlank d with
      | true => rw [collapseChars_cons_of_blanks hc hd]
      | false => rw [collapseChars_blank_cons hc (Span.ends_of_head? rfl hd), htrim]

/-- **Flattening collapses the runs of blanks and trims the ends.** -/
theorem flattenChars_eq_trimChars (cs : List Char) :
    flattenChars cs = trimChars (collapseChars cs) := by
  induction cs with
  | nil => rfl
  | cons c cs ih =>
      cases hc : isBlank c with
      | true => rw [flattenChars_blank_cons hc, trimChars_collapseChars_blank_cons hc, ih]
      | false =>
          rw [collapseChars_cons hc, trimChars_cons hc]
          cases cs with
          | nil => simp [flattenChars, words, hc, collapseChars, dropTailWhile]
          | cons d ds =>
              cases hd : isBlank d with
              | false =>
                  have hends : Span.Ends isBlank (collapseChars (d :: ds)) :=
                    ends_collapseChars (Span.ends_of_head? rfl hd)
                  rw [flattenChars_cons_cons hc hd, ih, trimChars_eq_dropTailWhile hends]
              | true =>
                  -- the space that the run of blanks shows as is kept if something follows it
                  obtain ⟨rest, hrest, hends⟩ := exists_collapseChars_blank hd ds
                  rw [flattenChars_cons_blank_cons hc hd, ih, hrest, trimChars_blank_cons rfl,
                    trimChars_eq_dropTailWhile hends, dropTailWhile_cons]
                  split_ifs <;> rfl

/-- `flattenChars_eq_trimChars` on strings. -/
theorem flatten_eq_trim_collapse (s : String) : flatten s = trim (collapse s) := by
  rw [flatten, flattenChars_eq_trimChars, trim, collapse, String.toList_ofList]

/-! ### Flattened texts -/

/-- **A flattened text is flat.** -/
theorem isFlat_flattenChars (cs : List Char) : IsFlat (flattenChars cs) where
  start := ends_flattenChars cs
  finish := by
    rw [flattenChars_eq_trimChars]
    obtain ⟨-, -, -, hends⟩ := dropTailWhile_eq_iff.1 (rfl : trimChars (collapseChars cs) = _)
    exact hends
  spaces c hc hblank := by
    rcases mem_flattenChars hc with hspace | ⟨-, hword⟩
    · exact hspace
    · exact absurd (hword.symm.trans hblank) Bool.false_ne_true
  apart := by
    have hcollapsed : (collapseChars cs).IsChain Apart := List.isChain_destutter Apart _
    rw [flattenChars_eq_trimChars]
    exact List.IsChain.infix hcollapsed <| trimChars_infix _

/-- **Flat texts are those that flattening leaves as they are.** -/
theorem flattenChars_eq_self_iff : flattenChars cs = cs ↔ IsFlat cs := by
  constructor
  · intro h
    rw [← h]
    exact isFlat_flattenChars cs
  · intro h
    rw [flattenChars_eq_trimChars, collapseChars_eq_self h.spaces h.apart,
      trimChars_of_ends h.start h.finish]

/-- **A text stays flat when its characters are written as words** and its spaces as they are. -/
theorem IsFlat.flatMap {f : Char → List Char} (h : IsFlat cs) (hspace : f ' ' = [' '])
    (hne : ∀ c, f c ≠ []) (hword : ∀ c, isBlank c = false → ∀ d ∈ f c, isBlank d = false) :
    IsFlat (cs.flatMap f) where
  start := by
    cases cs with
    | nil => exact h.start
    | cons c cs =>
        rw [List.flatMap_cons]
        exact (Span.ends_of_forall_mem (hword c (h.start c rfl))).append_of_ne_nil (hne c) _
  finish := by
    rcases cs.eq_nil_or_concat' with rfl | ⟨cs, c, rfl⟩
    · exact h.finish
    · have hc : isBlank c = false := h.finish c (by simp)
      rw [List.flatMap_append, List.flatMap_singleton, List.reverse_append]
      refine Span.Ends.append_of_ne_nil (Span.ends_of_forall_mem fun d hd => ?_)
        (mt List.reverse_eq_nil_iff.1 (hne c)) _
      exact hword c hc d (List.mem_reverse.1 hd)
  spaces d hd hblank := by
    obtain ⟨c, hc, hd⟩ := List.mem_flatMap.1 hd
    cases hc' : isBlank c with
    | false => exact absurd ((hword c hc' d hd).symm.trans hblank) Bool.false_ne_true
    | true =>
        rw [h.spaces c hc hc', hspace] at hd
        exact List.mem_singleton.1 hd
  apart := by
    have hnil : [] ∉ cs.map f := fun hmem => by
      obtain ⟨c, -, hc⟩ := List.mem_map.1 hmem
      exact hne c hc
    rw [List.flatMap_def, List.isChain_flatten hnil, List.isChain_map]
    refine ⟨fun chunk hchunk => ?_, h.apart.imp fun c d hapart x hx y hy hblank => ?_⟩
    · obtain ⟨c, hc, rfl⟩ := List.mem_map.1 hchunk
      cases hc' : isBlank c with
      | true =>
          rw [h.spaces c hc hc', hspace]
          exact .singleton _
      | false => exact isChain_apart (hword c hc')
    · -- a blank at the end of a character's chunk is that character
      cases hc : isBlank c with
      | true => exact hword d (hapart hc) y (List.mem_of_mem_head? hy)
      | false =>
          have hx := hword c hc x (List.mem_of_mem_getLast? hx)
          exact absurd (hx.symm.trans hblank) Bool.false_ne_true

end Text
end CodeDiagram
