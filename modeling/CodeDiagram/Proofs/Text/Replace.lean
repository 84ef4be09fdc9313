/-
# Replacing a mark in a text

`replaceChars mark new text` goes through the text from the left and writes
`new` for each copy of `mark`; copies do not overlap.  A mark of one character
is replaced character by character (`replaceChars_singleton`).

A character may be written out as a mark, and the mark read back as the
character.  A text that held copies of the mark before is not the same after
both, but the later of the two does all that counts:

| first | then | as if only |
| --- | --- | --- |
| written out | read back | read back (`replaceChars_mark_char`) |
| read back | written out | written out (`replaceChars_char_mark`) |

So two texts agree written out just when they agree read back
(`replaceChars_char_inj_iff`).  For the first line the mark begins with a
character that it has nowhere else.  Then no copy of it can begin in what stood
in the text and end in a copy that is written.
-/

import Mathlib.Data.List.Basic
import Mathlib.Data.List.Infix
import Mathlib.Tactic.SplitIfs

namespace CodeDiagram
namespace Text

variable {mark new more cs xs ys : List Char} {c first : Char}

/-- The text with `new` in place of each copy of `mark`, which is not empty. -/
def replaceChars (mark new : List Char) : List Char → List Char
  | [] => []
  | c :: cs =>
    -- `c` is the first character of a copy
    if mark <+: c :: cs then new ++ replaceChars mark new (cs.drop (mark.length - 1))
    else c :: replaceChars mark new cs
termination_by text => text.length
decreasing_by
  · rw [List.length_drop, List.length_cons]
    omega
  · exact Nat.lt_succ_self _

/-- `replaceChars` on strings. -/
def replace (mark new s : String) : String :=
  String.ofList (replaceChars mark.toList new.toList s.toList)

theorem toList_replace (mark new s : String) :
    (replace mark new s).toList = replaceChars mark.toList new.toList s.toList :=
  String.toList_ofList

/-! ### Steps from the left -/

theorem replaceChars_nil (mark new : List Char) : replaceChars mark new [] = [] := by
  rw [replaceChars]

/-- **A copy of the mark is replaced.** -/
theorem replaceChars_append (hmark : mark ≠ []) (new cs : List Char) :
    replaceChars mark new (mark ++ cs) = new ++ replaceChars mark new cs := by
  obtain ⟨first, more, rfl⟩ := List.exists_cons_of_ne_nil hmark
  have hprefix : first :: more <+: first :: (more ++ cs) := List.prefix_append _ cs
  rw [List.cons_append, replaceChars, if_pos hprefix, List.length_cons, Nat.add_sub_cancel,
    List.drop_left]

/-- **What begins no copy of the mark stays.** -/
theorem replaceChars_cons (h : ¬ mark <+: c :: cs) (new : List Char) :
    replaceChars mark new (c :: cs) = c :: replaceChars mark new cs := by
  rw [replaceChars, if_neg h]

/-- A text is empty, opens with the mark, or opens with a character that begins no copy of it. -/
theorem mark_induction {motive : List Char → Prop} (hmark : mark ≠ []) (nil : motive [])
    (copy : ∀ cs, motive cs → motive (mark ++ cs))
    (skip : ∀ c cs, ¬ mark <+: c :: cs → motive cs → motive (c :: cs)) (cs : List Char) :
    motive cs := by
  fun_induction replaceChars mark [] cs with
  | case1 => exact nil
  | case2 c cs hprefix ih =>
      obtain ⟨rest, hrest⟩ := hprefix
      obtain ⟨first, more, rfl⟩ := List.exists_cons_of_ne_nil hmark
      rw [List.cons_append] at hrest
      obtain ⟨rfl, rfl⟩ := List.cons_eq_cons.1 hrest
      rw [List.length_cons, Nat.add_sub_cancel, List.drop_left] at ih
      exact copy rest ih
  | case3 c cs hprefix ih => exact skip c cs hprefix ih

theorem replaceChars_singleton_cons_self (c : Char) (new cs : List Char) :
    replaceChars [c] new (c :: cs) = new ++ replaceChars [c] new cs :=
  replaceChars_append (List.cons_ne_nil c []) new cs

theorem replaceChars_singleton_cons_of_ne {d : Char} (h : d ≠ c) (new cs : List Char) :
    replaceChars [c] new (d :: cs) = d :: replaceChars [c] new cs :=
  replaceChars_cons (fun hprefix => h (List.cons_prefix_cons.1 hprefix).1.symm) new

/-- A mark of one character is replaced character by character. -/
theorem replaceChars_singleton (c : Char) (new cs : List Char) :
    replaceChars [c] new cs = cs.flatMap fun d => if d = c then new else [d] := by
  induction cs with
  | nil => exact replaceChars_nil [c] new
  | cons d cs ih =>
      rw [List.flatMap_cons, ← ih]
      split_ifs with hd
      · rw [hd, replaceChars_singleton_cons_self]
      · rw [replaceChars_singleton_cons_of_ne hd, List.singleton_append]

/-! ### A character and its mark -/

theorem replaceChars_singleton_append_of_not_mem (h : c ∉ xs) (new ys : List Char) :
    replaceChars [c] new (xs ++ ys) = xs ++ replaceChars [c] new ys := by
  induction xs with
  | nil => rfl
  | cons d xs ih =>
      rw [List.mem_cons, not_or] at h
      rw [List.cons_append, replaceChars_singleton_cons_of_ne (Ne.symm h.1), ih h.2,
        List.cons_append]

theorem replaceChars_singleton_eq_self (h : c ∉ cs) (new : List Char) :
    replaceChars [c] new cs = cs := by
  have hcs := replaceChars_singleton_append_of_not_mem h new []
  rwa [List.append_nil, replaceChars_nil, List.append_nil] at hcs

/-- **A mark read as its character is written out again.** -/
theorem replaceChars_char_mark (hmark : mark ≠ []) (hc : c ∉ mark) (cs : List Char) :
    replaceChars [c] mark (replaceChars mark [c] cs) = replaceChars [c] mark cs := by
  induction cs using mark_induction hmark with
  | nil => rw [replaceChars_nil]
  | copy cs ih =>
      rw [replaceChars_append hmark, List.singleton_append, replaceChars_singleton_cons_self, ih,
        replaceChars_singleton_append_of_not_mem hc]
  | skip d cs hprefix ih =>
      rw [replaceChars_cons hprefix]
      by_cases hd : d = c
      · rw [hd, replaceChars_singleton_cons_self, replaceChars_singleton_cons_self, ih]
      · rw [replaceChars_singleton_cons_of_ne hd, replaceChars_singleton_cons_of_ne hd, ih]

/-- What stands at the start after a character is written out stood there before, if it has neither
the character nor the first one of the mark. -/
theorem prefix_of_prefix_replaceChars (hc : c ∉ xs) (hfirst : first ∉ xs)
    (h : xs <+: replaceChars [c] (first :: more) cs) : xs <+: cs := by
  induction xs generalizing cs with
  | nil => exact List.nil_prefix
  | cons x xs ih =>
      rw [List.mem_cons, not_or] at hc hfirst
      cases cs with
      | nil =>
          rw [replaceChars_nil] at h
          exact h
      | cons d cs =>
          by_cases hd : d = c
          · rw [hd, replaceChars_singleton_cons_self, List.cons_append] at h
            exact absurd (List.cons_prefix_cons.1 h).1.symm hfirst.1
          · rw [replaceChars_singleton_cons_of_ne hd] at h
            obtain ⟨rfl, hxs⟩ := List.cons_prefix_cons.1 h
            exact List.cons_prefix_cons.2 ⟨rfl, ih hc.2 hfirst.2 hxs⟩

/-- **A character that is written as its mark is read back**, along with the copies that were there
before. -/
theorem replaceChars_mark_char (hfirst : first ∉ more) (hc : c ∉ first :: more) (cs : List Char) :
    replaceChars (first :: more) [c] (replaceChars [c] (first :: more) cs) =
      replaceChars (first :: more) [c] cs := by
  have hmark : first :: more ≠ [] := List.cons_ne_nil first more
  induction cs using mark_induction hmark with
  | nil => rw [replaceChars_nil]
  | copy cs ih =>
      rw [replaceChars_singleton_append_of_not_mem hc, replaceChars_append hmark,
        replaceChars_append hmark, ih]
  | skip d cs hprefix ih =>
      rw [replaceChars_cons hprefix]
      by_cases hd : d = c
      · rw [hd, replaceChars_singleton_cons_self, replaceChars_append hmark, ih]
        rfl
      · -- no copy begins at `d` now, since what follows it in the mark has stood there before
        have hkept : ¬ first :: more <+: d :: replaceChars [c] (first :: more) cs := fun h => by
          obtain ⟨rfl, hmore⟩ := List.cons_prefix_cons.1 h
          exact hprefix (List.cons_prefix_cons.2 ⟨rfl,
            prefix_of_prefix_replaceChars (List.not_mem_of_not_mem_cons hc) hfirst hmore⟩)
        rw [replaceChars_singleton_cons_of_ne hd, replaceChars_cons hkept, ih]

/-- **Texts agree with the character written out just when they agree with it read back.** -/
theorem replaceChars_char_inj_iff (hfirst : first ∉ more) (hc : c ∉ first :: more) :
    replaceChars [c] (first :: more) xs = replaceChars [c] (first :: more) ys ↔
      replaceChars (first :: more) [c] xs = replaceChars (first :: more) [c] ys := by
  constructor
  · intro h
    rw [← replaceChars_mark_char hfirst hc, h, replaceChars_mark_char hfirst hc]
  · intro h
    rw [← replaceChars_char_mark (List.cons_ne_nil first more) hc, h,
      replaceChars_char_mark (List.cons_ne_nil first more) hc]

end Text
end CodeDiagram
