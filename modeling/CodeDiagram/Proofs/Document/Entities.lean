/-
# The entities of a statement

The text that ends a line of a sequence is made in three steps (`statement_eq`):

| step | what is done |
| --- | --- |
| 1 | runs of blanks are collapsed, and the ends trimmed |
| 2 | `;` is replaced by `#59;` |
| 3 | `"` is replaced by `#quot;` |

The third step brings in semicolons that the second may not see, so the order
counts.  In this order every semicolon of the result is the end of an entity
that one of the steps has put there for a mark (`withEntities_eq_append_iff`),
whatever the text spells around it, and the two marks can be told apart from
texts that look like their entities (`unambiguous_statement`).
-/

import CodeDiagram.Proofs.Document.Label
import CodeDiagram.Proofs.Document.Statement
import CodeDiagram.Proofs.Text.Flat
import CodeDiagram.Proofs.Text.Replace

namespace CodeDiagram
namespace Label

variable {cs before after : List Char} {c : Char}

/-- The text with the two marks written as entities, the semicolon first. -/
def withEntities (s : String) : String :=
  Text.replace "\"" "#quot;" (Text.replace ";" "#59;" s)

/-- The semicolon that is written for a semicolon is kept by the next step, which finds no quote. -/
theorem flatMap_semicolon_quote (c : Char) :
    (if c = ';' then "#59;".toList else [c]).flatMap
      (fun d => if d = '"' then "#quot;".toList else [d]) = entity c := by
  unfold entity
  split_ifs with hsemicolon hquote
  · decide
  · rw [List.flatMap_singleton, if_pos hquote]
  · rw [List.flatMap_singleton, if_neg hquote]

theorem toList_withEntities (s : String) : (withEntities s).toList = s.toList.flatMap entity := by
  have hsemicolon : ";".toList = [';'] := by decide
  have hquote : "\"".toList = ['"'] := by decide
  rw [withEntities, Text.toList_replace, Text.toList_replace, hsemicolon, hquote,
    Text.replaceChars_singleton, Text.replaceChars_singleton, List.flatMap_assoc]
  simp only [flatMap_semicolon_quote]

/-- **A statement is made by collapsing, trimming and writing the marks as entities.** -/
theorem statement_eq (s : String) : statement s = withEntities (Text.trim (Text.collapse s)) := by
  rw [← String.toList_inj, toList_withEntities, ← Text.flatten_eq_trim_collapse, statement,
    Text.flatten, String.toList_ofList, String.toList_ofList, statementChars_eq]

/-! ### Semicolons -/

/-- A semicolon stands only at the end of an entity. -/
theorem entity_eq_append_iff : entity c = before ++ ';' :: after ↔
    (c = ';' ∧ before = "#59".toList ∨ c = '"' ∧ before = "#quot".toList) ∧ after = [] := by
  by_cases hsemicolon : c = ';'
  · subst hsemicolon
    have hentity : entity ';' = "#59".toList ++ ';' :: [] := by decide
    rw [hentity, List.append_cons_inj_of_notMem (by decide) (by decide)]
    simp [eq_comm]
  by_cases hquote : c = '"'
  · subst hquote
    have hentity : entity '"' = "#quot".toList ++ ';' :: [] := by decide
    rw [hentity, List.append_cons_inj_of_notMem (by decide) (by decide)]
    simp [eq_comm]
  · rw [entity_of_ne hsemicolon hquote]
    refine iff_of_false (fun h => hsemicolon ?_) (by simp [hsemicolon, hquote])
    have hmem : ';' ∈ [c] := h ▸ List.mem_append_right before (List.mem_cons_self ..)
    exact (List.mem_singleton.1 hmem).symm

/-- **A semicolon among the entities of a text ends the entity of a mark.** -/
theorem flatMap_entity_eq_append_iff : cs.flatMap entity = before ++ ';' :: after ↔
    ∃ front back,
      (cs = front ++ ';' :: back ∧ before = front.flatMap entity ++ "#59".toList ∨
        cs = front ++ '"' :: back ∧ before = front.flatMap entity ++ "#quot".toList) ∧
      after = back.flatMap entity := by
  constructor
  · intro h
    induction cs using List.reverseRecOn generalizing after with
    | nil => simp at h
    | append_singleton cs c ih =>
        rw [flatMap_entity_concat] at h
        rcases List.append_eq_append_iff.1 h with ⟨rest, rfl, hlast⟩ | ⟨rest, hcs, hafter⟩
        · -- the semicolon stands in the last entity
          obtain ⟨hmark, rfl⟩ := entity_eq_append_iff.1 hlast
          refine ⟨cs, [], hmark.imp ?_ ?_, rfl⟩ <;>
            · rintro ⟨rfl, rfl⟩
              exact ⟨rfl, rfl⟩
        · cases rest with
          | nil =>
              have hfirst : entity c = [] ++ ';' :: after := hafter.symm
              rcases (entity_eq_append_iff.1 hfirst).1 with ⟨-, hnil⟩ | ⟨-, hnil⟩ <;> cases hnil
          | cons d rest =>
              obtain ⟨rfl, rfl⟩ := List.cons_eq_cons.1 hafter
              obtain ⟨front, back, hmark, rfl⟩ := ih hcs
              refine ⟨front, back ++ [c], hmark.imp ?_ ?_, (flatMap_entity_concat back c).symm⟩ <;>
                · rintro ⟨rfl, rfl⟩
                  exact ⟨List.append_assoc .., rfl⟩
  · rintro ⟨front, back, ⟨rfl, rfl⟩ | ⟨rfl, rfl⟩, rfl⟩ <;> simp [entity]

/-- `flatMap_entity_eq_append_iff` on strings. -/
theorem withEntities_eq_append_iff {s before after : String} :
    withEntities s = before ++ ";" ++ after ↔
      ∃ front back,
        (s = front ++ ";" ++ back ∧ before = withEntities front ++ "#59" ∨
          s = front ++ "\"" ++ back ∧ before = withEntities front ++ "#quot") ∧
        after = withEntities back := by
  have hsemicolon : ";".toList = [';'] := by decide
  have hquote : "\"".toList = ['"'] := by decide
  simp only [← String.toList_inj, String.toList_append, toList_withEntities, hsemicolon, hquote,
    List.append_assoc, List.singleton_append, flatMap_entity_eq_append_iff]
  constructor
  · rintro ⟨front, back, h⟩
    exact ⟨String.ofList front, String.ofList back, by simpa only [String.toList_ofList] using h⟩
  · rintro ⟨front, back, h⟩
    exact ⟨front.toList, back.toList, h⟩

/-- **The text that ends a line of a sequence is unambiguous.**  It is the text with its runs of
blanks collapsed, its ends trimmed and the two marks written as entities.  It holds no double quote.
A semicolon in it ends the entity that was written for a mark, between what was written for the text
before the mark and for the text behind it, and every mark has such a semicolon.  Two texts are
written alike just when they are the same once collapsed and trimmed. -/
theorem unambiguous_statement (s : String) :
    statement s = withEntities (Text.trim (Text.collapse s)) ∧
      '"' ∉ (statement s).toList ∧
      (∀ before after, statement s = before ++ ";" ++ after ↔
        ∃ front back,
          (Text.trim (Text.collapse s) = front ++ ";" ++ back ∧
              before = withEntities front ++ "#59" ∨
            Text.trim (Text.collapse s) = front ++ "\"" ++ back ∧
              before = withEntities front ++ "#quot") ∧
          after = withEntities back) ∧
      ∀ t, statement s = statement t ↔
        Text.trim (Text.collapse s) = Text.trim (Text.collapse t) := by
  refine ⟨statement_eq s, (plain_statement s).quote_not_mem, fun before after => ?_, fun t => ?_⟩
  · rw [statement_eq, withEntities_eq_append_iff]
  · rw [statement_inj, Text.flatten_eq_trim_collapse, Text.flatten_eq_trim_collapse]

/-- A mark, texts that spell entities, and a text that ends like one in front of a mark. -/
example : (["#59;\n;", "#quot;\"", " #\"\t# "].map statement) =
    ["#59#59; #59;", "#quot#59;#quot;", "##quot; #"] := by decide +kernel

/-- In the other order a double quote could not be told from a text that spells its entity. -/
example : Text.replace ";" "#59;" (Text.replace "\"" "#quot;" "\"") =
    Text.replace ";" "#59;" (Text.replace "\"" "#quot;" "#quot;") := by decide +kernel

end Label
end CodeDiagram
