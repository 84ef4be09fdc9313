/-
# Where a text is cut

A text is cut at a copy of the mark (`cut_eq_some`), and not at all if it holds
none (`cut_eq_none`), so whether it is cut tells whether it holds the mark
(`contains_iff_infix`).  A text in which no copy begins (`Clear`) is passed over
(`cut_append`), so the cut is made at the first copy (`cut_append_mark`).  A
mark of one character repeated begins in a text without it only at the end, and
only if the text goes on with that character (`clear_replicate`).

Copies of a mark at the end of a text are taken off down to what does not end
in one (`dropTailMarks_append_copies`).
-/

import CodeDiagram.Text.Search
import Mathlib.Data.List.Infix
import Mathlib.Tactic.SplitIfs

namespace CodeDiagram
namespace Text

variable {mark mark' text before after xs ys : List Char} {c : Char} {n : ℕ}

/-- **A text is cut at a copy of the mark.** -/
theorem cut_eq_some (h : cut mark text = some (before, after)) :
    text = before ++ (mark ++ after) := by
  induction text generalizing before with
  | nil =>
      rw [cut] at h
      split at h
      · next hmark =>
        obtain ⟨rfl, rfl⟩ := Prod.mk.inj (Option.some.inj h)
        rw [List.isEmpty_iff.1 hmark]
        rfl
      · cases h
  | cons c cs ih =>
      rw [cut] at h
      split at h
      · next hmark =>
        obtain ⟨rfl, rfl⟩ := Prod.mk.inj (Option.some.inj h)
        exact (List.prefix_iff_eq_append.1 (List.isPrefixOf_iff_prefix.1 hmark)).symm
      · obtain ⟨⟨before', after'⟩, hcut, hparts⟩ := Option.map_eq_some_iff.1 h
        obtain ⟨rfl, rfl⟩ := Prod.mk.inj hparts
        rw [ih hcut]
        rfl

/-- A mark without a certain character ends before that character. -/
theorem prefix_of_prefix_append_cons (hc : c ∉ mark) (h : mark <+: xs ++ c :: ys) :
    mark <+: xs := by
  rcases List.prefix_or_prefix_of_prefix h (List.prefix_append xs (c :: ys)) with hxs | hxs
  · exact hxs
  · obtain ⟨beyond, rfl⟩ := hxs
    have hbeyond : beyond <+: c :: ys := (List.prefix_append_right_inj xs).1 h
    cases beyond with
    | nil => rw [List.append_nil]
    | cons d beyond =>
        obtain rfl : d = c := (List.cons_prefix_cons.1 hbeyond).1
        exact absurd (List.mem_append_right xs (List.mem_cons_self ..)) hc

/-- No copy of the mark begins in `xs` when `ys` follows. -/
def Clear (mark xs ys : List Char) : Prop :=
  ∀ tail, tail <:+ xs → tail ≠ [] → ¬ mark <+: tail ++ ys

/-- **A text in which no copy begins is passed over.** -/
theorem cut_append (h : Clear mark xs ys) :
    cut mark (xs ++ ys) = (cut mark ys).map fun parts => (xs ++ parts.1, parts.2) := by
  induction xs with
  | nil => exact Option.map_id'.symm
  | cons c xs ih =>
      have hnot : ¬ mark.isPrefixOf (c :: (xs ++ ys)) = true := fun hprefix =>
        h (c :: xs) List.suffix_rfl (List.cons_ne_nil c xs) (List.isPrefixOf_iff_prefix.1 hprefix)
      have hxs : Clear mark xs ys := fun tail htail =>
        h tail (htail.trans (List.suffix_cons c xs))
      rw [List.cons_append, cut, if_neg hnot, ih hxs, Option.map_map]
      rfl

/-- A text is cut where the mark stands if no copy begins before. -/
theorem cut_mark_append (hmark : mark ≠ []) : cut mark (mark ++ ys) = some ([], ys) := by
  obtain ⟨c, cs, rfl⟩ := List.exists_cons_of_ne_nil hmark
  rw [List.cons_append, cut, if_pos, ← List.cons_append, List.drop_left]
  rw [← List.cons_append, List.isPrefixOf_iff_prefix]
  exact List.prefix_append _ _

/-- **The first copy is found.** -/
theorem cut_append_mark (hmark : mark ≠ []) (h : Clear mark xs (mark ++ ys)) :
    cut mark (xs ++ (mark ++ ys)) = some (xs, ys) := by
  rw [cut_append h, cut_mark_append hmark, Option.map_some, List.append_nil]

theorem infix_of_cut_eq_some {parts : List Char × List Char} (h : cut mark text = some parts) :
    mark <:+: text := by
  refine ⟨parts.1, parts.2, ?_⟩
  rw [List.append_assoc]
  exact (cut_eq_some h).symm

/-- **A text without the mark is not cut.** -/
theorem cut_eq_none (h : ¬ mark <:+: text) : cut mark text = none := by
  cases hcut : cut mark text with
  | none => rfl
  | some parts => exact absurd (infix_of_cut_eq_some hcut) h

theorem not_infix_of_cut_eq_none (h : cut mark text = none) : ¬ mark <:+: text := by
  induction text with
  | nil =>
      rw [cut] at h
      split_ifs at h with hmark
      exact mt List.infix_nil.1 (mt List.isEmpty_iff.2 hmark)
  | cons c cs ih =>
      rw [cut] at h
      split_ifs at h with hprefix
      rw [List.infix_cons_iff, not_or]
      exact ⟨mt List.isPrefixOf_iff_prefix.2 hprefix, ih (Option.map_eq_none_iff.1 h)⟩

/-- **A text holds the marks that are a part of it.** -/
theorem contains_iff_infix : contains mark text = true ↔ mark <:+: text := by
  rw [contains]
  cases hcut : cut mark text with
  | none => exact iff_of_false Bool.false_ne_true (not_infix_of_cut_eq_none hcut)
  | some parts => exact iff_of_true rfl (infix_of_cut_eq_some hcut)

/-- Where a mark does not begin, no longer one does. -/
theorem Clear.mono (h : Clear mark xs ys) (hmark : mark <+: mark') : Clear mark' xs ys :=
  fun tail htail hne hprefix => h tail htail hne (hmark.trans hprefix)

/-- A copy that begins in one of two parts begins in the first or in the second. -/
theorem Clear.append {zs : List Char} (hxs : Clear mark xs (ys ++ zs)) (hys : Clear mark ys zs) :
    Clear mark (xs ++ ys) zs := by
  rintro tail ⟨front, hfront⟩ hne hprefix
  rcases List.append_eq_append_iff.1 hfront with ⟨part, rfl, rfl⟩ | ⟨part, rfl, rfl⟩
  · rw [List.append_assoc] at hprefix
    cases part with
    | nil => exact hys ys List.suffix_rfl hne hprefix
    | cons c part =>
        exact hxs _ (List.suffix_append front _) (List.cons_ne_nil c part) hprefix
  · exact hys tail (List.suffix_append part tail) hne hprefix

/-- **One character repeated begins in a text without such a run only at its end**, and only if
the text goes on with the same character. -/
theorem clear_replicate (hxs : ¬ List.replicate n c <:+: xs)
    (hjoint : xs.getLast? ≠ some c ∨ ys.head? ≠ some c) : Clear (List.replicate n c) xs ys := by
  intro tail htail hne hprefix
  have hshort : ¬ List.replicate n c <+: tail := fun h =>
    hxs (h.isInfix.trans htail.isInfix)
  -- the run begins in `tail` and goes beyond it, so it covers both sides of the joint
  have hbeyond := List.prefix_or_prefix_of_prefix hprefix (List.prefix_append tail ys)
  obtain ⟨beyond, hbeyond⟩ := hbeyond.resolve_left hshort
  have hmem : ∀ d ∈ tail ++ beyond, d = c := fun d hd =>
    List.eq_of_mem_replicate (hbeyond ▸ hd)
  rcases hjoint with hlast | hhead
  · apply hlast
    obtain ⟨front, rfl⟩ := htail
    rw [List.getLast?_append_of_ne_nil _ hne, List.getLast?_eq_some_getLast hne,
      hmem _ (List.mem_append_left _ (List.getLast_mem hne))]
  · have hys : beyond <+: ys := (List.prefix_append_right_inj tail).1 (hbeyond ▸ hprefix)
    cases beyond with
    | nil =>
        rw [List.append_nil] at hbeyond
        exact hshort (hbeyond ▸ List.prefix_rfl)
    | cons d beyond =>
        obtain ⟨rest, rfl⟩ := hys
        exact hhead (congrArg some (hmem d (List.mem_append_right _ (List.mem_cons_self ..))))

/-! ### Copies at the end -/

theorem dropTailMarks_go_append {rest : List Char} (hmark : mark ≠ [])
    (hrest : ¬ mark.reverse <+: rest) : ∀ (n : ℕ) {fuel : ℕ},
    ((List.replicate n mark.reverse).flatten ++ rest).length ≤ fuel →
      dropTailMarks.go mark fuel ((List.replicate n mark.reverse).flatten ++ rest) = rest
  | 0, 0, _ => rfl
  | 0, fuel + 1, _ => by
      rw [List.replicate_zero, List.flatten_nil, List.nil_append, dropTailMarks.go,
        if_neg (mt List.isPrefixOf_iff_prefix.1 hrest)]
  | n + 1, fuel, hfuel => by
      have hlength : 0 < mark.length := List.length_pos_iff.2 hmark
      rw [List.replicate_succ, List.flatten_cons, List.append_assoc] at hfuel ⊢
      rw [List.length_append, List.length_reverse] at hfuel
      obtain ⟨fuel, rfl⟩ : ∃ left, fuel = left + 1 := ⟨fuel - 1, by omega⟩
      rw [dropTailMarks.go, if_pos (List.isPrefixOf_iff_prefix.2 (List.prefix_append _ _)),
        ← List.length_reverse, List.drop_left]
      exact dropTailMarks_go_append hmark hrest n (by omega)

/-- **Copies of the mark are taken off the end**, all of them and nothing else. -/
theorem dropTailMarks_append_copies (h : ¬ mark <:+ xs) (n : ℕ) :
    dropTailMarks mark (xs ++ (List.replicate n mark).flatten) = xs := by
  have hmark : mark ≠ [] := by
    rintro rfl
    exact h (List.nil_suffix)
  have hrest : ¬ mark.reverse <+: xs.reverse := mt List.reverse_prefix.1 h
  have hreverse : (xs ++ (List.replicate n mark).flatten).reverse =
      (List.replicate n mark.reverse).flatten ++ xs.reverse := by
    rw [List.reverse_append, List.reverse_flatten, List.map_replicate, List.reverse_replicate]
  have hfuel : ((List.replicate n mark.reverse).flatten ++ xs.reverse).length ≤
      (xs ++ (List.replicate n mark).flatten).length := by
    rw [← hreverse, List.length_reverse]
  rw [dropTailMarks, hreverse, dropTailMarks_go_append hmark hrest n hfuel, List.reverse_reverse]

end Text
end CodeDiagram
