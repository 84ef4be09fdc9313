/-
# Attribute words

A column shows its type and its name as bare words, and the grammar takes a
bare word only if it is an attribute word (`IsAttributeWord`):

| part | may be |
| --- | --- |
| first character | an ASCII letter or `_` |
| any character | an ASCII letter or digit, or one of `_ - ( ) [ ]` |
| whole word | anything but `pk`, `fk` and `uk` in any case |

A free text is made into such a word in several steps, and each can undo what
another has settled: a mark may appear only when punctuation is dropped, and a
digit may come first only then.  What comes out is always an attribute word
(`isAttributeWord_attributeChars`), and an attribute word comes out as it is
(`attributeChars_eq_self`).  So the words that are shown are just the texts that
are shown unchanged (`isAttributeWord_attributeWord`).
-/

import CodeDiagram.Proofs.Document.Label

namespace CodeDiagram
namespace Label

variable {cs fallback : List Char} {c : Char}

/-- What the grammar takes for the type or the name of a column.  It is not empty, since it opens
with a letter or `_`. -/
structure IsAttributeWord (cs : List Char) : Prop where
  opens : ∃ c ∈ cs.head?, c.isAlpha = true ∨ c = '_'
  chars : ∀ c ∈ cs, c.isAlphanum = true ∨ c ∈ ['_', '-', '(', ')', '[', ']']
  unmarked : ∀ mark ∈ ["pk", "fk", "uk"], cs.map Char.toLower ≠ mark.toList

theorem isAttributeChar_iff :
    isAttributeChar c = true ↔ c.isAlphanum = true ∨ c ∈ ['_', '-', '(', ')', '[', ']'] := by
  simp [isAttributeChar, or_assoc]

theorem isKeyMark_eq_false_iff :
    isKeyMark cs = false ↔ ∀ mark ∈ ["pk", "fk", "uk"], cs.map Char.toLower ≠ mark.toList := by
  simp [isKeyMark]

theorem isAttributeWord_iff : IsAttributeWord cs ↔
    (cs.head?.any fun c => c.isAlpha || c == '_') = true ∧ cs.all isAttributeChar = true ∧
      isKeyMark cs = false := by
  rw [Option.any_eq_true, List.all_eq_true, isKeyMark_eq_false_iff]
  simp only [isAttributeChar_iff, Bool.or_eq_true, beq_iff_eq]
  exact ⟨fun h => ⟨h.opens, h.chars, h.unmarked⟩, fun ⟨hopens, hchars, hmark⟩ =>
    ⟨hopens, hchars, hmark⟩⟩

instance (cs : List Char) : Decidable (IsAttributeWord cs) :=
  decidable_of_iff' _ isAttributeWord_iff

/-- The word opens as it should, if the fallback does. -/
theorem opens_attributeChars (hfallback : ∃ c ∈ fallback.head?, c.isAlpha = true ∨ c = '_')
    (cs : List Char) : ∃ c ∈ (attributeChars fallback cs).head?, c.isAlpha = true ∨ c = '_' := by
  rw [attributeChars]
  generalize ((Text.flattenChars cs).map fun c => if c = ' ' then '_' else c).filter
    isAttributeChar = kept
  generalize (if isKeyMark kept then kept ++ ['_'] else kept) = word
  cases word with
  | nil => exact hfallback
  | cons d ds =>
      simp only
      split_ifs with hopens
      · exact ⟨d, rfl, by simpa using hopens⟩
      · exact ⟨'_', rfl, .inr rfl⟩

/-- **Every text is made into an attribute word.** -/
theorem isAttributeWord_attributeChars (hfallback : IsAttributeWord fallback) (cs : List Char) :
    IsAttributeWord (attributeChars fallback cs) where
  opens := opens_attributeChars hfallback.opens cs
  chars c hc := by
    rcases mem_attributeChars hc with hc | hc
    · exact hfallback.chars c hc
    · exact isAttributeChar_iff.1 hc
  unmarked := by
    rw [← isKeyMark_eq_false_iff]
    rcases attributeChars_cases fallback cs with heq | ⟨word, -, -, hmark, heq | heq⟩
    · rw [heq, isKeyMark_eq_false_iff]
      exact hfallback.unmarked
    · rwa [heq]
    · rw [heq]
      simp [isKeyMark]

/-- **An attribute word is left as it is.** -/
theorem attributeChars_eq_self (h : IsAttributeWord cs) (fallback : List Char) :
    attributeChars fallback cs = cs := by
  have hchars : ∀ c ∈ cs, isAttributeChar c = true :=
    fun c hc => isAttributeChar_iff.2 (h.chars c hc)
  have hspaces : cs.map (fun c => if c = ' ' then '_' else c) = cs := by
    refine (List.map_congr_left fun c hc => if_neg ?_).trans (List.map_id _)
    rintro rfl
    exact absurd (hchars ' ' hc) (by decide)
  have hkept : ((Text.flattenChars cs).map fun c => if c = ' ' then '_' else c).filter
      isAttributeChar = cs := by
    rw [Text.flattenChars_eq_self fun c hc => isBlank_of_isAttributeChar (hchars c hc), hspaces,
      List.filter_eq_self.2 hchars]
  rw [attributeChars]
  simp only [hkept, isKeyMark_eq_false_iff.2 h.unmarked, Bool.false_eq_true, if_false]
  obtain ⟨c, hc, hopens⟩ := h.opens
  cases cs with
  | nil => cases hc
  | cons d ds =>
      obtain rfl : d = c := Option.some.inj hc
      exact if_pos (by simpa using hopens)

theorem attributeWord_eq_self {t : String} (h : IsAttributeWord t.toList) (fallback : String) :
    attributeWord fallback t = t := by
  rw [attributeWord, attributeChars_eq_self h, String.ofList_toList]

/-- **The type and the name of a column are shown as attribute words.**  Whatever the text, what is
shown of it is an attribute word and is shown unchanged from then on, with either fallback; and only
attribute words are. -/
theorem isAttributeWord_attributeWord (s : String) : ∀ fallback ∈ ["string", "field"],
    IsAttributeWord (attributeWord fallback s).toList ∧
      (∀ fallback', attributeWord fallback' (attributeWord fallback s) = attributeWord fallback s) ∧
      (attributeWord fallback s = s ↔ IsAttributeWord s.toList) := by
  intro fallback hmem
  have hfallback : IsAttributeWord fallback.toList := by
    rcases List.mem_cons.1 hmem with rfl | hmem
    · decide +kernel
    · rw [List.mem_singleton.1 hmem]
      decide +kernel
  have hword : IsAttributeWord (attributeWord fallback s).toList := by
    rw [attributeWord, String.toList_ofList]
    exact isAttributeWord_attributeChars hfallback s.toList
  exact ⟨hword, attributeWord_eq_self hword, fun h => h ▸ hword,
    fun h => attributeWord_eq_self h fallback⟩

/-- `isAttributeWord_attributeWord` at work: a mark that shows only without its punctuation, a digit
in front, and a text of which nothing is left. -/
theorem isAttributeWord_attributeWord_marked :
    "field" ∈ ["string", "field"] ∧ attributeWord "field" "P\"k\n" = "Pk_" ∧
      attributeWord "string" "\"2fa\u3000 code" = "_2fa_code" ∧
      attributeWord "string" "\x7d" = "string" ∧
      (∀ s ∈ ["P\"k\n", "\"2fa\u3000 code", "\x7d"],
        IsAttributeWord (attributeWord "field" s).toList ∧
          attributeWord "string" (attributeWord "field" s) = attributeWord "field" s) ∧
      ¬ IsAttributeWord "uK".toList := by
  have hmem : "field" ∈ ["string", "field"] := by decide
  refine ⟨hmem, by decide +kernel, by decide +kernel, by decide +kernel, fun s _ => ?_, ?_⟩
  · obtain ⟨hword, hself, -⟩ := isAttributeWord_attributeWord s "field" hmem
    exact ⟨hword, hself "string"⟩
  · exact mt (isAttributeWord_attributeWord "uK" "field" hmem).2.2.2 (by decide +kernel)

end Label
end CodeDiagram
