/-
# Reading a statement back

The text that ends a line of a sequence is the flattened text with each of its
characters written as an entity:

| character | entity |
| --- | --- |
| `;` | `#59;` |
| `"` | `#quot;` |
| any other | the character itself |

Read from the left, `#59;` could be four characters or one.  Read from the
right it can not: a `;` stands in an entity only as its last character, and the
character before it says which entity it ends.  So no entity is the tail of
another (`append_entity_inj`), and statements differ as soon as the flattened
texts do (`statement_inj`).
-/

import CodeDiagram.Document.Label
import Mathlib.Data.List.Basic
import Mathlib.Data.List.Induction
import Mathlib.Tactic.SplitIfs

namespace CodeDiagram
namespace Label

variable {cs cs' : List Char} {c d : Char} {s t : String}

/-- What a character of a statement is written as. -/
def entity (c : Char) : List Char :=
  if c = ';' then "#59;".toList else if c = '"' then "#quot;".toList else [c]

theorem statementChars_eq (cs : List Char) :
    statementChars cs = (Text.flattenChars cs).flatMap entity := rfl

/-- A character that is no entity mark is written as itself. -/
theorem entity_of_ne (hsemicolon : c ≠ ';') (hquote : c ≠ '"') : entity c = [c] := by
  rw [entity, if_neg hsemicolon, if_neg hquote]

/-- Only the two marks are written with a `;` at the end. -/
theorem getLast?_append_entity (cs : List Char) (c : Char) :
    (cs ++ entity c).getLast? = some ';' ↔ c = ';' ∨ c = '"' := by
  by_cases hsemicolon : c = ';'
  · subst hsemicolon
    simp [entity]
  by_cases hquote : c = '"'
  · subst hquote
    simp [entity]
  · simp [entity_of_ne hsemicolon hquote, hsemicolon, hquote]

/-- **No entity is the tail of another**, so the last one is read back. -/
theorem append_entity_inj : cs ++ entity c = cs' ++ entity d ↔ cs = cs' ∧ c = d := by
  constructor
  · intro h
    have hlast : (c = ';' ∨ c = '"') ↔ d = ';' ∨ d = '"' := by
      rw [← getLast?_append_entity cs, h, getLast?_append_entity]
    by_cases hmark : c = ';' ∨ c = '"'
    · -- the character before the `;` tells the two entities apart
      have hbefore := congrArg (fun text : List Char => text.reverse[1]?) h
      rcases hmark with rfl | rfl <;> rcases hlast.1 (by simp) with rfl | rfl
      · exact ⟨List.append_cancel_right h, rfl⟩
      · simp [entity] at hbefore
      · simp [entity] at hbefore
      · exact ⟨List.append_cancel_right h, rfl⟩
    · obtain ⟨hsemicolon, hquote⟩ := not_or.1 hmark
      obtain ⟨hsemicolon', hquote'⟩ := not_or.1 (mt hlast.2 hmark)
      rw [entity_of_ne hsemicolon hquote, entity_of_ne hsemicolon' hquote'] at h
      obtain ⟨hcs, hchar⟩ := List.append_inj' h rfl
      exact ⟨hcs, List.singleton_inj.1 hchar⟩
  · rintro ⟨rfl, rfl⟩
    rfl

theorem entity_ne_nil (c : Char) : entity c ≠ [] := by
  unfold entity
  split_ifs
  · decide
  · decide
  · exact List.cons_ne_nil c []

theorem flatMap_entity_concat (cs : List Char) (c : Char) :
    (cs ++ [c]).flatMap entity = cs.flatMap entity ++ entity c := by
  rw [List.flatMap_append, List.flatMap_singleton]

theorem flatMap_entity_concat_ne_nil (cs : List Char) (c : Char) :
    (cs ++ [c]).flatMap entity ≠ [] := by
  rw [flatMap_entity_concat]
  exact List.append_ne_nil_of_right_ne_nil _ (entity_ne_nil c)

/-- **Entities are read back.** -/
theorem flatMap_entity_inj : cs.flatMap entity = cs'.flatMap entity ↔ cs = cs' := by
  refine ⟨fun h => ?_, congrArg (List.flatMap entity)⟩
  -- the last entity is read back, and by induction those before it
  induction cs using List.reverseRecOn generalizing cs' with
  | nil =>
      rcases cs'.eq_nil_or_concat' with rfl | ⟨cs', d, rfl⟩
      · rfl
      · exact absurd h.symm (flatMap_entity_concat_ne_nil cs' d)
  | append_singleton cs c ih =>
      rcases cs'.eq_nil_or_concat' with rfl | ⟨cs', d, rfl⟩
      · exact absurd h (flatMap_entity_concat_ne_nil cs c)
      · rw [flatMap_entity_concat, flatMap_entity_concat, append_entity_inj] at h
        rw [ih h.1, h.2]

/-- **Statements are the same just when the flattened texts are.** -/
theorem statement_inj : statement s = statement t ↔ Text.flatten s = Text.flatten t := by
  rw [statement, statement, Text.flatten, Text.flatten, String.ofList_inj, String.ofList_inj,
    statementChars_eq, statementChars_eq, flatMap_entity_inj]

end Label
end CodeDiagram
