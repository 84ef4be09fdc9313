/-
# Reading the words of a vocabulary

In every vocabulary of a plan a canonical spelling is read as its own word,
strictly and loosely (`Vocabulary.Lawful`), so writing a loosely spelled word
canonically does not change what it means.  Loose reading does not see blanks in
front of a word (`ofLoose?_append_of_isBlankText`).
-/

import CodeDiagram.Plan.Vocabulary
import CodeDiagram.Proofs.Text.Trim

namespace CodeDiagram
namespace Vocabulary

/-- The canonical spellings are read as the words that they spell. -/
class Lawful (α : Type) [Vocabulary α] : Prop where
  ofSpelling?_spelling : ∀ word : α, ofSpelling? (spelling word) = some word
  ofLoose?_spelling : ∀ word : α, ofLoose? (spelling word) = some word

instance : Lawful NodeKind := ⟨by intro word; cases word <;> rfl, by intro word; cases word <;> rfl⟩

instance : Lawful StepKind := ⟨by intro word; cases word <;> rfl, by intro word; cases word <;> rfl⟩

instance : Lawful RelationKind :=
  ⟨by intro word; cases word <;> rfl, by intro word; cases word <;> rfl⟩

instance : Lawful KeyKind := ⟨by intro word; cases word <;> rfl, by intro word; cases word <;> rfl⟩

section Reading

variable {α : Type} [Vocabulary α] {s blanks : String} {word : α}

theorem fold_append_of_isBlankText (h : Text.isBlankText blanks = true) :
    fold (blanks ++ s) = fold s := by
  have hblanks : ∀ c ∈ blanks.toList, Text.isBlank c = true := List.all_eq_true.1 h
  rw [fold, String.toList_append, Text.trimChars_blanks_append hblanks, fold]

/-- Blanks in front of a word do not change what it means. -/
theorem ofLoose?_append_of_isBlankText (h : Text.isBlankText blanks = true) :
    (ofLoose? (blanks ++ s) : Option α) = ofLoose? s := by
  rw [ofLoose?, fold_append_of_isBlankText h, ofLoose?]

theorem spelling_of_ofSpelling? (h : ofSpelling? s = some word) : s = spelling word := by
  have hfound := List.find?_some h
  exact (beq_iff_eq.1 hfound).symm

variable [Lawful α]

/-- **Strict reading accepts canonical spellings and nothing else.** -/
theorem ofSpelling?_eq_some_iff : ofSpelling? s = some word ↔ s = spelling word := by
  refine ⟨spelling_of_ofSpelling?, ?_⟩
  rintro rfl
  exact Lawful.ofSpelling?_spelling word

/-- A text that spells a word means it. -/
theorem bind_ofLoose?_of_spelling {text : Option String} (h : text = some (spelling word)) :
    text.bind ofLoose? = some word := by
  rw [h, Option.bind_some, Lawful.ofLoose?_spelling]

end Reading

end Vocabulary
end CodeDiagram
