/-
# Words and blanks

The words of a text hold everything but its blanks, in order
(`flatten_words`).  Writing them with single spaces therefore loses nothing
but blanks (`filter_flattenChars`) and brings in nothing but spaces
(`mem_flattenChars`), and the result does not open with a blank
(`ends_flattenChars`) and is empty only for a blank text
(`flattenChars_eq_nil_iff`).  A text without blanks stays as it is
(`flattenChars_eq_self`).

What flattening makes of a character depends on the next one: a blank does not
show (`flattenChars_blank_cons`), and any other character goes on with its word
(`flattenChars_cons_cons`) or ends it (`flattenChars_cons_blank_cons`).
-/

import CodeDiagram.Text.Blank
import CodeDiagram.Proofs.Text.Span
import Mathlib.Tactic.SplitIfs

namespace CodeDiagram
namespace Text

variable {c : Char} {cs word : List Char} {q : Char → Bool}

/-- A text that opens with no blank has a first word. -/
theorem exists_words_cons (hc : isBlank c = false) (cs : List Char) :
    ∃ word rest, words (c :: cs) = word :: rest := by
  induction cs generalizing c with
  | nil => exact ⟨[c], [], by simp [words, hc]⟩
  | cons d ds ih =>
      cases hd : isBlank d with
      | true => exact ⟨[c], words (d :: ds), by rw [words.eq_def]; simp [hc, hd]⟩
      | false =>
          obtain ⟨word, rest, hwords⟩ := ih hd
          refine ⟨c :: word, rest, ?_⟩
          rw [words.eq_def]
          simp [hc, hd, hwords]

theorem filter_cons_of_not_isBlank (hc : isBlank c = false) (cs : List Char) :
    ((c :: cs).filter fun c => !isBlank c) = c :: cs.filter fun c => !isBlank c := by
  simp [hc]

/-- **The words of a text hold everything but its blanks**, in order. -/
theorem flatten_words (cs : List Char) : (words cs).flatten = cs.filter fun c => !isBlank c := by
  fun_induction words cs with
  | case1 => rfl
  | case2 c cs hc ih => rw [ih, List.filter_cons_of_neg (by simp [hc])]
  | case3 c hc => simp [hc]
  | case4 c hc d ds hd ih =>
      rw [List.flatten_cons, ih, filter_cons_of_not_isBlank (Bool.eq_false_iff.2 hc)]
      rfl
  | case5 c hc d ds hd ih =>
      obtain ⟨word, rest, hwords⟩ := exists_words_cons (Bool.eq_false_iff.2 hd) ds
      rw [hwords] at ih ⊢
      rw [filter_cons_of_not_isBlank (Bool.eq_false_iff.2 hc), ← ih]
      rfl

theorem words_eq_nil_iff : words cs = [] ↔ cs.all isBlank = true := by
  rw [List.all_eq_true]
  constructor
  · intro hnil
    have hflat := flatten_words cs
    rw [hnil, List.flatten_nil, eq_comm, List.filter_eq_nil_iff] at hflat
    simpa using hflat
  · intro hall
    induction cs with
    | nil => rfl
    | cons c cs ih =>
        rw [List.forall_mem_cons] at hall
        rw [words.eq_def]
        simp only [hall.1, if_true]
        exact ih hall.2

/-- What does not see blanks does not see how words are parted. -/
theorem filter_intercalate_space (hq : q ' ' = false) : ∀ ws : List (List Char),
    ([' '].intercalate ws).filter q = ws.flatten.filter q
  | [] => rfl
  | [word] => by rw [List.intercalate_singleton, List.flatten_singleton]
  | word :: word' :: ws => by
      show _ = (word ++ (word' :: ws).flatten).filter q
      rw [List.intercalate_cons_cons, List.filter_append, List.filter_append,
        filter_intercalate_space hq (word' :: ws), List.filter_append,
        List.filter_cons_of_neg (by simp [hq]), List.filter_nil, List.append_nil]

/-- **Flattening loses nothing but blanks.** -/
theorem filter_flattenChars (hq : ∀ c, isBlank c = true → q c = false) (cs : List Char) :
    (flattenChars cs).filter q = cs.filter q := by
  rw [flattenChars, filter_intercalate_space (hq ' ' rfl), flatten_words, List.filter_filter]
  refine List.filter_congr fun c _ => ?_
  cases hc : isBlank c with
  | true => simp [hq c hc]
  | false => simp

/-- A character that is no blank stands in a flattened text as often as in the text. -/
theorem count_flattenChars (hc : isBlank c = false) (cs : List Char) :
    (flattenChars cs).count c = cs.count c := by
  rw [List.count_eq_length_filter, List.count_eq_length_filter, filter_flattenChars]
  intro d hd
  rw [beq_eq_false_iff_ne]
  rintro rfl
  rw [hd] at hc
  cases hc

/-- Texts written with a separator between two of them hold their own characters and its. -/
theorem mem_intercalate {separator : List Char} : ∀ {texts : List (List Char)},
    c ∈ separator.intercalate texts → c ∈ separator ∨ ∃ text ∈ texts, c ∈ text
  | [], h => by cases h
  | [text], h => by
      rw [List.intercalate_singleton] at h
      exact .inr ⟨text, List.mem_singleton_self text, h⟩
  | text :: text' :: rest, h => by
      rw [List.intercalate_cons_cons, List.mem_append, List.mem_append] at h
      rcases h with (htext | hseparator) | hrest
      · exact .inr ⟨text, List.mem_cons_self .., htext⟩
      · exact .inl hseparator
      · rcases mem_intercalate hrest with hseparator | ⟨other, hother, hmem⟩
        · exact .inl hseparator
        · exact .inr ⟨other, List.mem_cons_of_mem _ hother, hmem⟩

/-- **Flattening brings in nothing but spaces.** -/
theorem mem_flattenChars (h : c ∈ flattenChars cs) : c = ' ' ∨ c ∈ cs ∧ isBlank c = false := by
  rcases mem_intercalate h with hspace | hword
  · exact .inl (List.mem_singleton.1 hspace)
  · have hmem := List.mem_flatten.2 hword
    rw [flatten_words, List.mem_filter] at hmem
    exact .inr ⟨hmem.1, by simpa using hmem.2⟩

/-- **Only a blank text is flattened to nothing.** -/
theorem flattenChars_eq_nil_iff : flattenChars cs = [] ↔ cs.all isBlank = true := by
  constructor
  · intro hnil
    have hkept := filter_flattenChars (q := fun c => !isBlank c) (by simp) cs
    rw [hnil, List.filter_nil, eq_comm, List.filter_eq_nil_iff] at hkept
    rw [List.all_eq_true]
    simpa using hkept
  · intro hall
    rw [flattenChars, words_eq_nil_iff.2 hall]
    rfl

theorem flattenChars_blank_cons (hc : isBlank c = true) (cs : List Char) :
    flattenChars (c :: cs) = flattenChars cs := by
  rw [flattenChars, words.eq_def]
  simp only [hc, if_true]
  rfl

/-- What goes on with no blank goes on with the same word. -/
theorem flattenChars_cons_cons (hc : isBlank c = false) (hd : isBlank d = false) (cs : List Char) :
    flattenChars (c :: d :: cs) = c :: flattenChars (d :: cs) := by
  obtain ⟨word, rest, hwords⟩ := exists_words_cons hd cs
  rw [flattenChars, flattenChars, words.eq_def]
  simp only [hc, hd, Bool.false_eq_true, if_false, hwords, List.modifyHead_cons]
  cases rest <;> rfl

/-- What goes on with a blank ends a word, and a space follows if that is not the last. -/
theorem flattenChars_cons_blank_cons (hc : isBlank c = false) (hd : isBlank d = true)
    (cs : List Char) :
    flattenChars (c :: d :: cs) =
      if flattenChars (d :: cs) = [] then [c] else c :: ' ' :: flattenChars (d :: cs) := by
  have hwords : words (c :: d :: cs) = [c] :: words (d :: cs) := by
    rw [words.eq_def]
    simp only [hc, hd, Bool.false_eq_true, if_false, if_true]
  rw [flattenChars, hwords]
  split_ifs with hnil
  · rw [flattenChars_eq_nil_iff, ← words_eq_nil_iff] at hnil
    rw [hnil, List.intercalate_singleton]
  · rw [flattenChars_eq_nil_iff, ← words_eq_nil_iff] at hnil
    obtain ⟨word, rest, hrest⟩ := List.exists_cons_of_ne_nil hnil
    rw [flattenChars, hrest, List.intercalate_cons_cons]
    rfl

/-- A word has no blanks. -/
theorem isBlank_of_mem_words (hword : word ∈ words cs) (hc : c ∈ word) : isBlank c = false := by
  have hmem := List.mem_flatten_of_mem hword hc
  rw [flatten_words, List.mem_filter] at hmem
  simpa using hmem.2

/-- A word has a character. -/
theorem ne_nil_of_mem_words (hword : word ∈ words cs) : word ≠ [] := by
  fun_induction words cs with
  | case1 => cases hword
  | case2 c cs hc ih => exact ih hword
  | case3 c hc =>
      rw [List.mem_singleton.1 hword]
      exact List.cons_ne_nil c []
  | case4 c hc d ds hd ih =>
      rcases List.mem_cons.1 hword with rfl | hword
      · exact List.cons_ne_nil c []
      · exact ih hword
  | case5 c hc d ds hd ih =>
      obtain ⟨first, rest, hwords⟩ := exists_words_cons (Bool.eq_false_iff.2 hd) ds
      rw [hwords, List.modifyHead_cons] at hword
      rcases List.mem_cons.1 hword with rfl | hword
      · exact List.cons_ne_nil c first
      · exact ih (hwords ▸ List.mem_cons_of_mem _ hword)

/-- A text without blanks is a word. -/
theorem words_of_not_isBlank (hne : cs ≠ []) (h : ∀ c ∈ cs, isBlank c = false) :
    words cs = [cs] := by
  induction cs with
  | nil => exact absurd rfl hne
  | cons c cs ih =>
      obtain ⟨hc, hcs⟩ := List.forall_mem_cons.1 h
      cases cs with
      | nil => simp [words, hc]
      | cons d ds =>
          have hd : isBlank d = false := hcs d (List.mem_cons_self ..)
          rw [words.eq_def]
          simp [hc, hd, ih (List.cons_ne_nil d ds) hcs]

theorem flattenChars_eq_self (h : ∀ c ∈ cs, isBlank c = false) : flattenChars cs = cs := by
  cases cs with
  | nil => rfl
  | cons c cs =>
      rw [flattenChars, words_of_not_isBlank (List.cons_ne_nil c cs) h,
        List.intercalate_singleton]

/-- **A flattened text does not open with a blank.** -/
theorem ends_flattenChars (cs : List Char) : Span.Ends isBlank (flattenChars cs) := by
  intro c hc
  cases hwords : words cs with
  | nil =>
      rw [flattenChars, hwords] at hc
      cases hc
  | cons word rest =>
      have hword : word ∈ words cs := hwords ▸ List.mem_cons_self ..
      obtain ⟨d, ds, rfl⟩ := List.exists_cons_of_ne_nil (ne_nil_of_mem_words hword)
      have hhead : (flattenChars cs).head? = some d := by
        rw [flattenChars, hwords]
        cases rest <;> rfl
      obtain rfl : d = c := Option.some.inj (hhead.symm.trans hc)
      exact isBlank_of_mem_words hword (List.mem_cons_self ..)

end Text
end CodeDiagram
