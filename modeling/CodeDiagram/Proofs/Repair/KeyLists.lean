/-
# Key lists in a repair

The keys of a column may be written as a text or as an array, and a repair
makes an array of both.  It does so column by column: what is changed in one
column of an entity-relation plan before the repair can be changed, mended, in
that column after it (`applyFields_modifyColumn`).  The names of the entities
do not see the keys, so neither does the table of names nor any link.

A text is read at its commas and its blank parts are left out.  So the text of
parts without commas, written with a comma between two of them, is read as the
array of the parts that show (`keyEntries?_intercalate`), and blank parts may be
inserted anywhere (`keyEntries?_of_inserted`).  A space behind each comma stays
in front of the part, where no loose spelling sees it.
-/

import CodeDiagram.Proofs.Repair.Insertion
import Mathlib.Data.List.Forall2

namespace CodeDiagram

open Json (Fields)
open Identifier (Table)

namespace Repair

/-! ### One column -/

section Column

/-- The column at a position of the entity at a position. -/
def column? (i j : Nat) (plan : Fields) : Option Fields :=
  (plan.element? "entities" i).bind (Fields.element? "columns" j)

/-- Changes the column at a position of the entity at a position. -/
def modifyColumn (i j : Nat) (f : Fields → Fields) (plan : Fields) : Fields :=
  plan.modifyElement "entities" i (Fields.modifyElement "columns" j f)

variable {f f' : Fields → Fields}

theorem column?_modifyColumn (i j : Nat) (f : Fields → Fields) (plan : Fields) :
    column? i j (modifyColumn i j f plan) = (column? i j plan).map f := by
  rw [column?, column?, modifyColumn, Fields.element?_modifyElement]
  cases plan.element? "entities" i with
  | some entity => exact Fields.element?_modifyElement j f entity
  | none => rfl

theorem modifyColumn_modifyColumn (i j : Nat) (f g : Fields → Fields) (plan : Fields) :
    modifyColumn i j g (modifyColumn i j f plan) = modifyColumn i j (g ∘ f) plan := by
  have hcolumn : Fields.modifyElement "columns" j g ∘ Fields.modifyElement "columns" j f =
      Fields.modifyElement "columns" j (g ∘ f) :=
    funext fun entity => Fields.modifyElement_modifyElement j f g entity
  rw [modifyColumn, modifyColumn, Fields.modifyElement_modifyElement, hcolumn, ← modifyColumn]

/-- A function of all items that meets a change of one item as another change. -/
theorem map_modify {α β : Type} {g : α → β} {change : α → α} {change' : β → β}
    (h : ∀ a, g (change a) = change' (g a)) : ∀ (index : Nat) (items : List α),
      (items.modify index change).map g = (items.map g).modify index change'
  | index, [] => by rw [List.modify_nil, List.map_nil, List.modify_nil]
  | 0, a :: rest => by
      rw [List.modify_zero_cons, List.map_cons, h, List.map_cons, List.modify_zero_cons]
  | index + 1, a :: rest => by
      rw [List.modify_succ_cons, List.map_cons, map_modify h index rest, List.map_cons,
        List.modify_succ_cons]

/-- **Columns are mended one by one.** -/
theorem map_canonicalColumn_modify
    (h : ∀ column, canonicalKeys (f column) = f' (canonicalKeys column)) (j : Nat)
    (columns : List Json) :
    (columns.modify j (Json.mapFields f)).map canonicalColumn =
      (columns.map canonicalColumn).modify j (Json.mapFields f') := by
  refine map_modify (fun column => ?_) j columns
  cases column with
  | object fields => exact congrArg Json.object (h fields)
  | _ => rfl

/-- The name of an entity is declared beside its columns. -/
theorem declare_set_columns {entity : Fields} {old columns : Json} (table : Table)
    (h : entity.get? "columns" = some old) :
    (recipe .entityRelation).declare table (entity.set "columns" columns) =
      (((recipe .entityRelation).declare table entity).1.set "columns" columns,
        ((recipe .entityRelation).declare table entity).2) := by
  have hne : "columns" ≠ (recipe .entityRelation).nameField := by decide
  have hname : (entity.set "columns" columns).text? (recipe .entityRelation).nameField =
      entity.text? (recipe .entityRelation).nameField := Fields.text?_set_of_ne hne
  cases hraw : entity.text? (recipe .entityRelation).nameField with
  | none =>
      rw [Recipe.declare_of_unnamed _ (hname.trans hraw), Recipe.declare_of_unnamed _ hraw]
  | some raw =>
      have hlabelled : ∀ id entity, (recipe .entityRelation).labelled raw id entity = entity :=
        fun _ _ => rfl
      rw [Recipe.declare_of_named _ (hname.trans hraw), Recipe.declare_of_named _ hraw, hlabelled,
        hlabelled, Fields.set_comm_of_get? hne h]

/-- The columns of an entity are mended where they stand. -/
theorem tidyElement_set_columns (entity : Fields) (columns : List Json) :
    (recipe .entityRelation).tidyElement (entity.set "columns" (.array columns)) =
      entity.set "columns" (.array (columns.map canonicalColumn)) := by
  have hcolumns : (entity.set "columns" (.array columns)).items? "columns" = some columns :=
    Fields.items?_set_self
  show canonicalColumns (emptyIfUnset "columns" _) = _
  rw [emptyIfUnset_eq_self (isUnset_of_items? hcolumns), canonicalColumns, hcolumns]
  exact Fields.set_set ..

/-- **One entity with columns:** its name is declared, and its columns are mended. -/
theorem declareItem_set_columns {entity : Fields} {old : Json} (table : Table)
    (h : entity.get? "columns" = some old) (columns : List Json) :
    (recipe .entityRelation).declareItem table (.object (entity.set "columns" (.array columns))) =
      (.object (((recipe .entityRelation).declare table entity).1.set "columns"
          (.array (columns.map canonicalColumn))),
        ((recipe .entityRelation).declare table entity).2) := by
  rw [Recipe.declareItem, declare_set_columns table h, tidyElement_set_columns]

/-- **A change of a column passes through the repair of its entity,** and the table of names does
not see it. -/
theorem declareItem_modifyElement
    (h : ∀ column, canonicalKeys (f column) = f' (canonicalKeys column)) (j : Nat) (table : Table)
    (item : Json) :
    (recipe .entityRelation).declareItem table
        (item.mapFields (Fields.modifyElement "columns" j f)) =
      (((recipe .entityRelation).declareItem table item).1.mapFields
          (Fields.modifyElement "columns" j f'),
        ((recipe .entityRelation).declareItem table item).2) := by
  cases item with
  | object entity =>
      cases hcolumns : Fields.items? "columns" entity with
      | some columns =>
          have hget := Fields.get?_of_items? hcolumns
          have hself := declareItem_set_columns table hget columns
          rw [Fields.set_eq_self hget] at hself
          rw [Json.mapFields, Fields.modifyElement_eq_set j f hcolumns,
            declareItem_set_columns table hget, map_canonicalColumn_modify h, hself, Json.mapFields,
            Fields.modifyElement_set]
      | none =>
          -- what the repair puts there, if anything, is an empty list
          have hrepaired := items?_repaired_entity table entity
          rw [hcolumns, Option.map_none] at hrepaired
          rw [Json.mapFields, Fields.modifyElement_eq_self j f hcolumns, Recipe.declareItem,
            Json.mapFields]
          split_ifs at hrepaired with hunset
          · rw [Fields.modifyElement_eq_set j f' hrepaired, List.modify_nil,
              Fields.set_eq_self (Fields.get?_of_items? hrepaired)]
          · rw [Fields.modifyElement_eq_self j f' hrepaired]
  | _ => rfl

/-- What a step makes of a change of any item, a repair makes of it at its position. -/
theorem Recipe.declareAll_modify {recipe : Recipe} {change change' : Json → Json}
    (h : ∀ table item, recipe.declareItem table (change item) =
      (change' (recipe.declareItem table item).1, (recipe.declareItem table item).2)) :
    ∀ (table : Table) (index : Nat) (items : List Json),
      recipe.declareAll table (items.modify index change) =
        ((recipe.declareAll table items).1.modify index change',
          (recipe.declareAll table items).2)
  | _, index, [] => by
      rw [List.modify_nil]
      exact congrArg (·, _) (List.modify_nil ..).symm
  | table, 0, item :: rest => by
      rw [List.modify_zero_cons, declareAll_cons, declareAll_cons, h, List.modify_zero_cons]
  | table, index + 1, item :: rest => by
      rw [List.modify_succ_cons, declareAll_cons, declareAll_cons, declareAll_modify h,
        List.modify_succ_cons]

/-- A change of an element that the table does not see passes through the repair of the plan, if all
elements are kept. -/
theorem applyFields_modifyElement {kind : Kind} {change change' : Fields → Fields}
    (hkeeps : ∀ item, (recipe kind).keeps item = true)
    (h : ∀ table item, (recipe kind).declareItem table (item.mapFields change) =
      (((recipe kind).declareItem table item).1.mapFields change',
        ((recipe kind).declareItem table item).2)) (index : Nat) (plan : Fields) :
    (recipe kind).applyFields (plan.modifyElement (recipe kind).elements index change) =
      ((recipe kind).applyFields plan).modifyElement (recipe kind).elements index change' := by
  have hne := elements_ne_links kind
  have hrepaired := items?_elements_applyFields kind plan
  cases hitems : plan.items? (recipe kind).elements with
  | none =>
      rw [hitems, Option.map_none] at hrepaired
      rw [Fields.modifyElement_eq_self index _ hitems,
        Fields.modifyElement_eq_self index _ hrepaired]
  | some items =>
      have hall : ∀ items : List Json, items.filter (recipe kind).keeps = items := fun items =>
        List.filter_eq_self.2 fun item _ => hkeeps item
      have hmodify := Recipe.declareAll_modify h (.empty (recipe kind).naming) index items
      have hdeclared : (recipe kind).declared
          (plan.set (recipe kind).elements (.array (items.modify index (Json.mapFields change)))) =
            (((recipe kind).declared plan).1.map fun items =>
                items.modify index (Json.mapFields change'),
              ((recipe kind).declared plan).2) := by
        simp only [Recipe.declared, Fields.items?_set_self, hitems, hall, hmodify, Option.map_some]
      have hfst := Recipe.declared_fst (recipe kind) plan
      rw [hitems, Option.map_some] at hrepaired hfst
      rw [Fields.modifyElement_eq_set index _ hitems, Fields.modifyElement_eq_set index _ hrepaired,
        Recipe.applyFields_eq, Recipe.applyFields_eq, hdeclared, Fields.items?_set_of_ne hne, hfst]
      simp only [Recipe.replaceItems, Option.map_some, Fields.set_set]
      cases hlinks : plan.items? (recipe kind).links with
      | none => exact (Fields.set_set ..).symm
      | some links =>
          simp only [Option.map_some]
          rw [← Fields.set_comm_of_get? hne Fields.get?_set_self, Fields.set_set]

/-- **A change of a column passes through the repair of the plan.** -/
theorem applyFields_modifyColumn
    (h : ∀ column, canonicalKeys (f column) = f' (canonicalKeys column)) (i j : Nat)
    (plan : Fields) :
    (recipe .entityRelation).applyFields (modifyColumn i j f plan) =
      modifyColumn i j f' ((recipe .entityRelation).applyFields plan) :=
  applyFields_modifyElement (fun _ => rfl) (declareItem_modifyElement h j) i plan

end Column

/-! ### The keys of a column -/

section Keys

variable {keys : Json} {entries : List Json}

/-- Gives keys to the column at a position of the entity at a position. -/
def withKeys (i j : Nat) (keys : Json) (plan : Fields) : Fields :=
  modifyColumn i j (Fields.set "keys" keys) plan

/-- Of the keys that a column is given the last count. -/
theorem withKeys_withKeys (i j : Nat) (keys keys' : Json) (plan : Fields) :
    withKeys i j keys' (withKeys i j keys plan) = withKeys i j keys' plan := by
  have hset : Fields.set "keys" keys' ∘ Fields.set "keys" keys = Fields.set "keys" keys' :=
    funext fun column => Fields.set_set "keys" keys keys' column
  rw [withKeys, withKeys, modifyColumn_modifyColumn, hset, ← withKeys]

/-- The mended keys of a column do not depend on those that it had before. -/
theorem canonicalKeys_set (h : keyEntries? (some keys) = some entries) (column : Fields) :
    canonicalKeys (column.set "keys" keys) =
      (canonicalKeys column).set "keys" (.array (entries.map canonicalKey)) := by
  have hmended : canonicalKeys (column.set "keys" keys) =
      column.set "keys" (.array (entries.map canonicalKey)) := by
    rw [canonicalKeys, Fields.get?_set_self, h]
    exact Fields.set_set ..
  rw [hmended]
  unfold canonicalKeys
  split
  · exact (Fields.set_set ..).symm
  · rfl

/-- **Keys are mended where they stand.** -/
theorem applyFields_withKeys (h : keyEntries? (some keys) = some entries) (i j : Nat)
    (plan : Fields) :
    (recipe .entityRelation).applyFields (withKeys i j keys plan) =
      withKeys i j (.array (entries.map canonicalKey))
        ((recipe .entityRelation).applyFields plan) :=
  applyFields_modifyColumn (canonicalKeys_set h) i j plan

end Keys

/-! ### Parts of a text -/

section Parts

variable {parts parts' : List String}

theorem commaParts_eq_splitOn : ∀ cs : List Char, commaParts cs = cs.splitOn ','
  | [] => rfl
  | c :: cs => by
      rw [commaParts, commaParts_eq_splitOn cs, List.splitOn_cons_eq_if_modifyHead]
      simp only [beq_iff_eq]

/-- **The entries of a text** are its parts between commas that show. -/
theorem keyEntries?_intercalate (h : ∀ part ∈ parts, ',' ∉ part.toList) :
    keyEntries? (some (.string (",".intercalate parts))) =
      some ((parts.filter fun part => !Text.isBlankText part).map .string) := by
  by_cases hnil : parts = []
  · rw [hnil]
    rfl
  · have hparts : commaParts (",".intercalate parts).toList = parts.map String.toList := by
      rw [commaParts_eq_splitOn, String.toList_intercalate]
      refine List.splitOn_intercalate ',' (fun cs hcs => ?_) (by simpa using hnil)
      obtain ⟨part, hpart, rfl⟩ := List.mem_map.1 hcs
      exact h part hpart
    rw [keyEntries?, hparts, List.filter_map, List.map_map]
    simp only [Function.comp_def, String.ofList_toList, Text.isBlankText]

/-- **Blank parts may be inserted anywhere.** -/
theorem keyEntries?_of_inserted (h : ∀ part ∈ parts', ',' ∉ part.toList)
    (hinserted : Inserted (fun part => Text.isBlankText part = true) parts parts') :
    keyEntries? (some (.string (",".intercalate parts'))) =
      keyEntries? (some (.string (",".intercalate parts))) := by
  have hkept : ∀ part ∈ parts, ',' ∉ part.toList := fun part hpart =>
    h part (hinserted.subset hpart)
  rw [keyEntries?_intercalate h, keyEntries?_intercalate hkept,
    hinserted.filter_eq fun part hpart => by rw [hpart]; rfl]

/-- The part is the text, as it stands or with a space in front. -/
def IsPart (text part : String) : Prop := part = text ∨ part = " " ++ text

namespace IsPart

variable {text part : String}

/-- A loose spelling does not see the space. -/
theorem ofLoose?_eq {α : Type} [Vocabulary α] (h : IsPart text part) :
    (Vocabulary.ofLoose? part : Option α) = Vocabulary.ofLoose? text := by
  rcases h with rfl | rfl
  · rfl
  · exact Vocabulary.ofLoose?_append_of_isBlankText rfl

theorem isBlankText_eq (h : IsPart text part) : Text.isBlankText part = Text.isBlankText text := by
  rcases h with rfl | rfl
  · rfl
  · rw [Text.isBlankText, String.toList_append, List.all_append]
    exact Bool.true_and _

theorem comma_not_mem (h : IsPart text part) (htext : ',' ∉ text.toList) : ',' ∉ part.toList := by
  rcases h with rfl | rfl
  · exact htext
  · rw [String.toList_append, List.mem_append]
    exact not_or.2 ⟨by decide, htext⟩

end IsPart

/-- The parts of texts that are written with a comma and a space between two of them. -/
def spaced : List String → List String
  | [] => []
  | text :: texts => text :: texts.map (" " ++ ·)

/-- A space in front of the first part is a space in front of the text. -/
theorem intercalate_space_cons (text : String) (parts : List String) :
    ",".intercalate ((" " ++ text) :: parts) = " " ++ ",".intercalate (text :: parts) := by
  cases parts with
  | nil => rfl
  | cons part parts =>
      simp only [String.intercalate_cons_cons, String.append_assoc]

/-- **The text of some parts with a comma and a space between two of them** is a text of parts with
a comma between two of them. -/
theorem intercalate_spaced : ∀ texts : List String,
    ",".intercalate (spaced texts) = ", ".intercalate texts
  | [] => rfl
  | [_] => rfl
  | text :: text' :: texts => by
      have ih := intercalate_spaced (text' :: texts)
      have hmark : text ++ "," ++ " " = text ++ ", " := String.append_assoc
      rw [spaced] at ih
      rw [spaced, List.map_cons, String.intercalate_cons_cons, intercalate_space_cons, ih,
        String.intercalate_cons_cons, ← String.append_assoc, hmark]

theorem forall₂_spaced : ∀ texts : List String, List.Forall₂ IsPart texts (spaced texts)
  | [] => .nil
  | _ :: _ => .cons (.inl rfl)
      (List.forall₂_map_right_iff.2 (List.forall₂_same.2 fun _ _ => .inr rfl))

theorem exists_isPart_of_mem_spaced {part : String} {texts : List String}
    (h : part ∈ spaced texts) : ∃ text ∈ texts, IsPart text part := by
  cases texts with
  | nil => cases h
  | cons text texts =>
      rcases List.mem_cons.1 h with rfl | h
      · exact ⟨part, List.mem_cons_self, .inl rfl⟩
      · obtain ⟨text', htext', rfl⟩ := List.mem_map.1 h
        exact ⟨text', List.mem_cons_of_mem _ htext', .inr rfl⟩

/-- **The entries of some texts** with a comma and a space between two of them are the texts, each
with the space that stands in front of it. -/
theorem keyEntries?_intercalate_spaced {texts : List String}
    (h : ∀ text ∈ texts, ',' ∉ text.toList ∧ Text.isBlankText text = false) :
    keyEntries? (some (.string (", ".intercalate texts))) =
      some ((spaced texts).map .string) := by
  have hparts : ∀ part ∈ spaced texts, ',' ∉ part.toList ∧ Text.isBlankText part = false := by
    intro part hmem
    obtain ⟨text, htext, hpart⟩ := exists_isPart_of_mem_spaced hmem
    exact ⟨hpart.comma_not_mem (h text htext).1, hpart.isBlankText_eq.trans (h text htext).2⟩
  rw [← intercalate_spaced, keyEntries?_intercalate fun part hpart => (hparts part hpart).1,
    List.filter_eq_self.2 fun part hpart => by rw [(hparts part hpart).2]; rfl]

end Parts

end Repair
end CodeDiagram
