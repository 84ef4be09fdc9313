/-
# What the forms of free text hold

| form | double quotes | blanks |
| --- | --- | --- |
| `quoted`, `statement`, `attributeWord` | none | spaces |
| `member?` | those of the text | spaces |

So three of the forms are plain texts, whatever the free text holds, and a
class member is at least on one line (`oneLine_member?`), with as many double
quotes as were in its text (`count_quote_member?`).
-/

import CodeDiagram.Document.Label
import CodeDiagram.Proofs.Text.Plain

namespace CodeDiagram
namespace Label

open Text (OneLine Plain isBlank)

variable {s member fallback : String} {c : Char}

/-- A character of a flattened text is plain, unless it is a double quote. -/
theorem plain_of_mem_flattenChars {cs : List Char} (h : c ∈ Text.flattenChars cs) (hc : c ≠ '"') :
    c ≠ '"' ∧ (isBlank c = true → c = ' ') := by
  refine ⟨hc, fun hblank => ?_⟩
  rcases Text.mem_flattenChars h with rfl | ⟨-, hword⟩
  · rfl
  · rw [hblank] at hword
    cases hword

/-- A text is plain by its characters. -/
theorem plain_ofList {cs : List Char} :
    Plain (String.ofList cs) ↔ ∀ c ∈ cs, c ≠ '"' ∧ (isBlank c = true → c = ' ') := by
  rw [Plain, String.toList_ofList]

/-- **Quoted text is plain.** -/
theorem plain_quoted (s : String) : Plain (quoted s) := by
  rw [quoted, plain_ofList]
  intro c hc
  obtain ⟨d, hd, hc⟩ := List.mem_flatMap.1 hc
  split_ifs at hc with hquote
  · exact (show Plain "&quot;" by decide) c hc
  · rw [List.mem_singleton.1 hc]
    exact plain_of_mem_flattenChars hd hquote

/-- A label that is shown is plain. -/
theorem plain_of_shown? {label : Option String} (h : shown? label = some s) : Plain s := by
  obtain ⟨text, -, rfl⟩ := Option.map_eq_some_iff.1 h
  exact plain_quoted text

/-- **The text that ends a line of a sequence is plain.** -/
theorem plain_statement (s : String) : Plain (statement s) := by
  rw [statement, plain_ofList]
  intro c hc
  obtain ⟨d, hd, hc⟩ := List.mem_flatMap.1 hc
  split_ifs at hc with hsemicolon hquote
  · exact (show Plain "#59;" by decide) c hc
  · exact (show Plain "#quot;" by decide) c hc
  · rw [List.mem_singleton.1 hc]
    exact plain_of_mem_flattenChars hd hquote

/-! ### Attribute words -/

theorem plain_of_isAttributeChar (h : isAttributeChar c = true) :
    c ≠ '"' ∧ (isBlank c = true → c = ' ') := by
  have hcases : Identifier.isLetter c = true ∨ c ∈ "-()[]".toList := by
    simpa [isAttributeChar, Identifier.isLetter, or_assoc] using h
  rcases hcases with hletter | hmark
  · refine ⟨?_, fun hblank => ?_⟩
    · rintro rfl
      exact absurd hletter (by decide)
    · rw [Identifier.isBlank_of_isLetter hletter] at hblank
      cases hblank
  · exact (show Plain "-()[]" by decide) c hmark

/-- An attribute word has no blank. -/
theorem isBlank_of_isAttributeChar (h : isAttributeChar c = true) : isBlank c = false := by
  rw [Bool.eq_false_iff]
  intro hblank
  rw [(plain_of_isAttributeChar h).2 hblank] at h
  cases h

/-- The two letters of a key mark. -/
theorem length_of_isKeyMark {word : List Char} (h : isKeyMark word = true) : word.length = 2 := by
  rw [isKeyMark, List.contains_iff_mem] at h
  have hlength : ∀ mark ∈ ["pk".toList, "fk".toList, "uk".toList], mark.length = 2 := by decide
  exact (List.length_map _).symm.trans (hlength _ h)

/-- **What an attribute word is made of:** it is the fallback, or attribute characters that are no
key mark, with or without a `_` before them. -/
theorem attributeChars_cases (fallback cs : List Char) :
    attributeChars fallback cs = fallback ∨
      ∃ word, word ≠ [] ∧ (∀ c ∈ word, isAttributeChar c = true) ∧ isKeyMark word = false ∧
        (attributeChars fallback cs = word ∨ attributeChars fallback cs = '_' :: word) := by
  rw [attributeChars]
  generalize hkept : ((Text.flattenChars cs).map fun c => if c = ' ' then '_' else c).filter
    isAttributeChar = kept
  have hchars : ∀ c ∈ kept, isAttributeChar c = true := by
    rw [← hkept]
    exact fun c hc => (List.mem_filter.1 hc).2
  -- a key mark is taken out of the way by the `_` after it
  obtain ⟨word, hword, hwordchars, hmark⟩ :
      ∃ word, (if isKeyMark kept then kept ++ ['_'] else kept) = word ∧
        (∀ c ∈ word, isAttributeChar c = true) ∧ isKeyMark word = false := by
    by_cases hkey : isKeyMark kept = true
    · refine ⟨kept ++ ['_'], if_pos hkey, ?_, ?_⟩
      · rw [List.forall_mem_append, List.forall_mem_singleton]
        exact ⟨hchars, rfl⟩
      · rw [Bool.eq_false_iff]
        intro hmark
        have hlength := length_of_isKeyMark hmark
        rw [List.length_append, length_of_isKeyMark hkey] at hlength
        cases hlength
    · exact ⟨kept, if_neg hkey, hchars, Bool.eq_false_iff.2 hkey⟩
  simp only [hword]
  cases word with
  | nil => exact .inl rfl
  | cons d ds =>
      refine .inr ⟨d :: ds, List.cons_ne_nil d ds, hwordchars, hmark, ?_⟩
      simp only
      split_ifs
      · exact .inl rfl
      · exact .inr rfl

/-- An attribute word is the fallback, or made of the characters of such words. -/
theorem mem_attributeChars {cs fallback : List Char} (h : c ∈ attributeChars fallback cs) :
    c ∈ fallback ∨ isAttributeChar c = true := by
  rcases attributeChars_cases fallback cs with heq | ⟨word, -, hchars, -, heq | heq⟩
  · exact .inl (heq ▸ h)
  · exact .inr (hchars c (heq ▸ h))
  · rw [heq] at h
    rcases List.mem_cons.1 h with rfl | h
    · exact .inr rfl
    · exact .inr (hchars c h)

/-- **An attribute word is not empty.** -/
theorem attributeWord_ne_nil (hfallback : fallback.toList ≠ []) (s : String) :
    (attributeWord fallback s).toList ≠ [] := by
  rw [attributeWord, String.toList_ofList]
  rcases attributeChars_cases fallback.toList s.toList with heq | ⟨word, hne, -, -, heq | heq⟩
  · rwa [heq]
  · rwa [heq]
  · rw [heq]
    exact List.cons_ne_nil _ word

/-- **An attribute word is no key mark.** -/
theorem isKeyMark_attributeWord (hfallback : isKeyMark fallback.toList = false) (s : String) :
    isKeyMark (attributeWord fallback s).toList = false := by
  rw [attributeWord, String.toList_ofList]
  rcases attributeChars_cases fallback.toList s.toList with heq | ⟨word, -, -, hmark, heq | heq⟩
  · rwa [heq]
  · rwa [heq]
  · rw [heq]
    simp [isKeyMark]

/-- An attribute word is made of its own characters, if its fallback is. -/
theorem isAttributeChar_of_mem_attributeWord
    (hfallback : ∀ c ∈ fallback.toList, isAttributeChar c = true) (s : String) :
    ∀ c ∈ (attributeWord fallback s).toList, isAttributeChar c = true := by
  intro c hc
  rw [attributeWord, String.toList_ofList] at hc
  exact (mem_attributeChars hc).elim (hfallback c) id

/-- **An attribute word is plain.** -/
theorem plain_attributeWord (hfallback : Plain fallback) (s : String) :
    Plain (attributeWord fallback s) := by
  rw [attributeWord, plain_ofList]
  intro c hc
  rcases mem_attributeChars hc with hc | hc
  · exact hfallback c hc
  · exact plain_of_isAttributeChar hc

/-! ### Class members -/

/-- A member survives its cleaning when it has a character that is no blank and no brace. -/
def survives (s : String) : Bool := s.toList.any fun c => !isBlank c && c != '{' && c != '}'

/-- A brace counts as a space. -/
def unbraced (c : Char) : Char := if c = '{' || c = '}' then ' ' else c

theorem memberChars_eq (cs : List Char) :
    memberChars cs = Text.flattenChars (cs.map unbraced) := rfl

/-- Without braces a character is blank if it was, or if it was a brace. -/
theorem isBlank_unbraced (c : Char) :
    isBlank (unbraced c) = !(!isBlank c && c != '{' && c != '}') := by
  unfold unbraced
  split_ifs with hbrace
  · rw [Bool.or_eq_true, decide_eq_true_eq, decide_eq_true_eq] at hbrace
    rcases hbrace with rfl | rfl <;> decide
  · rw [Bool.or_eq_true, decide_eq_true_eq, decide_eq_true_eq, not_or] at hbrace
    rw [bne_iff_ne.2 hbrace.1, bne_iff_ne.2 hbrace.2, Bool.and_true, Bool.and_true, Bool.not_not]

/-- To take braces away neither makes nor takes a double quote. -/
theorem unbraced_beq_quote (c : Char) : (unbraced c == '"') = (c == '"') := by
  unfold unbraced
  split_ifs with hbrace
  · rw [Bool.or_eq_true, decide_eq_true_eq, decide_eq_true_eq] at hbrace
    rcases hbrace with rfl | rfl <;> decide
  · rfl

theorem unbraced_ne_brace (c : Char) : unbraced c ≠ '{' ∧ unbraced c ≠ '}' := by
  unfold unbraced
  split_ifs with hbrace
  · decide
  · rw [Bool.or_eq_true, decide_eq_true_eq, decide_eq_true_eq, not_or] at hbrace
    exact hbrace

/-- A class member is what is left of its text, if anything is. -/
theorem member?_eq_some_iff : member? s = some member ↔
    memberChars s.toList ≠ [] ∧ member = String.ofList (memberChars s.toList) := by
  simp only [member?]
  split_ifs with hempty
  · simp [List.isEmpty_iff.1 hempty]
  · simp [mt List.isEmpty_iff.2 hempty, eq_comm]

/-- **A member is shown exactly when it survives.** -/
theorem isSome_member? (s : String) : (member? s).isSome = survives s := by
  have hnil : memberChars s.toList = [] ↔ ¬survives s = true := by
    rw [memberChars_eq, Text.flattenChars_eq_nil_iff, List.all_map, survives,
      List.all_eq_not_any_not]
    simp only [Function.comp_def, isBlank_unbraced, Bool.not_not, Bool.not_eq_true']
    rw [Bool.not_eq_true]
  rw [Bool.eq_iff_iff, Option.isSome_iff_exists]
  simp only [member?_eq_some_iff, exists_and_left, exists_eq, and_true]
  rw [Ne, hnil, not_not]

/-- A class member stands on one line. -/
theorem oneLine_member? (h : member? s = some member) : OneLine member := by
  obtain ⟨-, rfl⟩ := member?_eq_some_iff.1 h
  intro c hc hblank
  rw [String.toList_ofList] at hc
  rcases Text.mem_flattenChars hc with hspace | ⟨-, hword⟩
  · exact hspace
  · rw [hblank] at hword
    cases hword

/-- **A member has the double quotes of its text.** -/
theorem count_quote_member? (h : member? s = some member) :
    member.toList.count '"' = s.toList.count '"' := by
  obtain ⟨-, rfl⟩ := member?_eq_some_iff.1 h
  rw [String.toList_ofList, memberChars_eq, Text.count_flattenChars rfl, List.count_eq_countP,
    List.count_eq_countP, List.countP_map]
  exact List.countP_congr fun c _ => by rw [Function.comp_apply, unbraced_beq_quote]

/-- **A member has no braces.** -/
theorem ne_brace_of_mem_member? (h : member? s = some member) :
    ∀ c ∈ member.toList, c ≠ '{' ∧ c ≠ '}' := by
  obtain ⟨-, rfl⟩ := member?_eq_some_iff.1 h
  intro c hc
  rw [String.toList_ofList, memberChars_eq] at hc
  rcases Text.mem_flattenChars hc with rfl | ⟨hmem, -⟩
  · decide
  · obtain ⟨d, -, rfl⟩ := List.mem_map.1 hmem
    exact unbraced_ne_brace d

/-- A member does not open with a blank. -/
theorem ends_member? (h : member? s = some member) : Span.Ends isBlank member.toList := by
  obtain ⟨-, rfl⟩ := member?_eq_some_iff.1 h
  rw [String.toList_ofList, memberChars_eq]
  exact Text.ends_flattenChars _

theorem ne_brace_of_mem_withCall (h : ∀ c ∈ member.toList, c ≠ '{' ∧ c ≠ '}') :
    ∀ c ∈ (withCall member).toList, c ≠ '{' ∧ c ≠ '}' := by
  unfold withCall
  split_ifs
  · exact h
  · rw [String.toList_append, List.forall_mem_append]
    exact ⟨h, by simp⟩

theorem ends_withCall (h : Span.Ends isBlank member.toList) :
    Span.Ends isBlank (withCall member).toList := by
  unfold withCall
  split_ifs
  · exact h
  · rw [String.toList_append]
    refine h.append fun c hc => ?_
    cases hc
    decide

/-- So it does with its parentheses. -/
theorem oneLine_withCall (h : OneLine member) : OneLine (withCall member) := by
  unfold withCall
  split_ifs
  · exact h
  · exact Text.oneLine_append.2 ⟨h, by decide⟩

/-- Parentheses bring no double quote. -/
theorem count_quote_withCall (member : String) :
    (withCall member).toList.count '"' = member.toList.count '"' := by
  unfold withCall
  split_ifs
  · rfl
  · rw [String.toList_append, List.count_append]
    rfl

end Label
end CodeDiagram
