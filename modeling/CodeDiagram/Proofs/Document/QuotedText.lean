/-
# Quoted text as a normal form

Text between double quotes is flat and has no double quote of its own.  These
texts are the ones that quoting leaves as they are (`quoted_eq_self_iff`), so a
text is not changed by quoting it again.

A double quote is written `&quot;`, and a text may have spelled it so before.
With `&quot;` read as a double quote, the quoted text and the flattened one are
the same (`replace_quoted`).  Besides blanks that is all that quoting forgets:
two texts are quoted alike just when they are the same once flattened and read
in this way (`quoted_eq_quoted_iff`).
-/

import CodeDiagram.Proofs.Document.Label
import CodeDiagram.Proofs.Text.Flat
import CodeDiagram.Proofs.Text.Replace

namespace CodeDiagram
namespace Label

open Text (IsFlat collapse replace replaceChars trim)

variable {s t : String}

theorem toList_quote : "\"".toList = ['"'] := by decide

theorem toList_quoteEntity : "&quot;".toList = '&' :: "quot;".toList := by decide

theorem quotedChars_eq (cs : List Char) :
    quotedChars cs = replaceChars ['"'] "&quot;".toList (Text.flattenChars cs) :=
  (Text.replaceChars_singleton '"' _ _).symm

/-- **Quoting collapses, trims and writes each double quote as an entity.** -/
theorem quoted_eq_replace (s : String) :
    quoted s = replace "\"" "&quot;" (trim (collapse s)) := by
  rw [← Text.flatten_eq_trim_collapse, quoted, quotedChars_eq, replace, toList_quote, Text.flatten]
  simp only [String.toList_ofList]

/-- **Quoted text is flat.** -/
theorem isFlat_quoted (s : String) : IsFlat (quoted s).toList := by
  rw [quoted, String.toList_ofList, quotedChars]
  refine (Text.isFlat_flattenChars s.toList).flatMap rfl (fun c => ?_) fun c hc d hd => ?_
  · split_ifs
    · decide
    · exact List.cons_ne_nil c []
  · split_ifs at hd
    · exact (show ∀ d ∈ "&quot;".toList, Text.isBlank d = false by simp [Text.isBlank]) d hd
    · rw [List.mem_singleton.1 hd]
      exact hc

/-- **Quoting leaves flat texts without double quotes as they are**, and no others. -/
theorem quoted_eq_self_iff : quoted s = s ↔ '"' ∉ s.toList ∧ IsFlat s.toList := by
  constructor
  · intro h
    rw [← h]
    exact ⟨(plain_quoted s).quote_not_mem, isFlat_quoted s⟩
  · rintro ⟨hquote, hflat⟩
    have hchars : quotedChars s.toList = s.toList := by
      rw [quotedChars_eq, Text.flattenChars_eq_self_iff.2 hflat,
        Text.replaceChars_singleton_eq_self hquote]
    rw [quoted, hchars, String.ofList_toList]

/-- **Reading the entity as a double quote gives the flattened text**, read in the same way. -/
theorem replace_quoted (s : String) :
    replace "&quot;" "\"" (quoted s) = replace "&quot;" "\"" (trim (collapse s)) := by
  rw [quoted_eq_replace, ← String.toList_inj]
  simp only [Text.toList_replace, toList_quote, toList_quoteEntity]
  exact Text.replaceChars_mark_char (by decide) (by decide) _

/-- **Quoted texts are the same just when the flattened texts are**, with the entity read as a
double quote. -/
theorem quoted_eq_quoted_iff : quoted s = quoted t ↔
    replace "&quot;" "\"" (trim (collapse s)) = replace "&quot;" "\"" (trim (collapse t)) := by
  rw [quoted_eq_replace, quoted_eq_replace, ← String.toList_inj, ← String.toList_inj]
  simp only [Text.toList_replace, toList_quote, toList_quoteEntity]
  exact Text.replaceChars_char_inj_iff (by decide) (by decide)

/-- **Quoted text is a normal form.**  It holds no double quote and its blanks are single spaces
between other characters; the texts of this form are quoted as themselves, so that quoting twice
quotes no more; and it shows as much of the text as the flattened text does, where the entity is
read as a double quote in either. -/
theorem normal_quoted (s : String) :
    '"' ∉ (quoted s).toList ∧ IsFlat (quoted s).toList ∧ quoted (quoted s) = quoted s ∧
      (quoted s = s ↔ '"' ∉ s.toList ∧ IsFlat s.toList) ∧
      replace "&quot;" "\"" (quoted s) = replace "&quot;" "\"" (trim (collapse s)) ∧
      ∀ t, quoted s = quoted t ↔
        replace "&quot;" "\"" (trim (collapse s)) = replace "&quot;" "\"" (trim (collapse t)) := by
  have hquote : '"' ∉ (quoted s).toList := (plain_quoted s).quote_not_mem
  exact ⟨hquote, isFlat_quoted s, quoted_eq_self_iff.2 ⟨hquote, isFlat_quoted s⟩,
    quoted_eq_self_iff, replace_quoted s, fun _ => quoted_eq_quoted_iff⟩

/-- A quote, its entity and pieces of the entity next to a quote. -/
example : quoted "\u2003\"a\"\n\t&quot; &\"quot; &quot\";" =
    "&quot;a&quot; &quot; &&quot;quot; &quot&quot;;" := by decide +kernel

end Label
end CodeDiagram
