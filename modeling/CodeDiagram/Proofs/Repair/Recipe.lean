/-
# What a repair does to elements and links

Declaring works on the name and the label of an element and mending on the
fields of its kind (`tidiedOfElement`, `tidiedOfLink`), and the two do not
meet.  Elements are repaired one by one while the table of names grows
(`Recipe.declareItem`), so a repair of a whole collection is described by what
one step does:

* it adds to the table the free name and the identifier that the element has
  before and after (`Recipe.declareAll_entries`);
* it leaves an element on which nothing is left to mend
  (`settled_of_mem_declareAll`), and such elements are given back as they are
  (`declareAll_of_settled`).
-/

import CodeDiagram.Proofs.Identifier.Table
import CodeDiagram.Proofs.Repair.Mending

namespace CodeDiagram

open Json (Fields)
open Identifier (Entry Table)

namespace Repair

/-- The fields of an element that are mended beside its name and its label. -/
def tidiedOfElement : Kind → List String
  | .flowchart => ["type"]
  | .sequence => []
  | .classes => ["properties", "methods"]
  | .entityRelation => ["columns"]

/-- The fields of a link that are mended beside its two ends. -/
def tidiedOfLink : Kind → List String
  | .flowchart => []
  | .sequence => ["type"]
  | .classes => ["type"]
  | .entityRelation => ["cardinality"]

variable {kind : Kind} {table : Table} {element : Fields} {item : Json}

/-- A recipe names elements by the naming of its kind. -/
theorem recipe_naming (kind : Kind) : (recipe kind).naming = kind.naming := by
  cases kind <;> rfl

theorem elements_ne_links (kind : Kind) : (recipe kind).elements ≠ (recipe kind).links := by
  cases kind <;> decide

/-- No mending touches the name. -/
theorem nameField_not_mem_tidied (kind : Kind) :
    (recipe kind).nameField ∉ tidiedOfElement kind := by
  cases kind <;> decide

/-- Nor does any touch the label, which is not the name. -/
theorem labelField_not_mem_tidied (kind : Kind) :
    ∀ field ∈ (recipe kind).labelField,
      field ∉ (recipe kind).nameField :: tidiedOfElement kind := by
  cases kind <;> decide

/-- No mending touches the ends of a link. -/
theorem ends_not_mem_tidied (kind : Kind) :
    "from" ∉ tidiedOfLink kind ∧ "to" ∉ tidiedOfLink kind := by
  cases kind <;> decide

theorem tidyElement_local (kind : Kind) :
    Fields.Local (tidiedOfElement kind) (recipe kind).tidyElement := by
  cases kind with
  | flowchart => exact canonicalWord_local "type"
  | sequence => exact Fields.Local.id_nil
  | classes => exact (emptyIfUnset_local "methods").comp (emptyIfUnset_local "properties")
  | entityRelation =>
      intro fields name hname
      exact (canonicalColumns_local.comp (emptyIfUnset_local "columns")) fields name fun h =>
        hname (by simpa [tidiedOfElement] using h)

theorem tidyLink_local (kind : Kind) : Fields.Local (tidiedOfLink kind) (recipe kind).tidyLink := by
  cases kind with
  | flowchart => exact Fields.Local.id_nil
  | sequence => exact canonicalWord_local "type"
  | classes => exact canonicalWord_local "type"
  | entityRelation => exact tidyCardinality_local

/-- An element that is mended stays as it is. -/
theorem tidyElement_tidyElement (kind : Kind) (element : Fields) :
    (recipe kind).tidyElement ((recipe kind).tidyElement element) =
      (recipe kind).tidyElement element := by
  cases kind with
  | flowchart => exact canonicalWord_canonicalWord "type" element
  | sequence => rfl
  | classes =>
      have hproperties : isUnset "properties"
          (emptyIfUnset "methods" (emptyIfUnset "properties" element)) = false := by
        rw [isUnset_of_local (emptyIfUnset_local "methods") (by decide)]
        exact isUnset_emptyIfUnset "properties" element
      simp only [recipe]
      rw [emptyIfUnset_eq_self hproperties, emptyIfUnset_eq_self (isUnset_emptyIfUnset _ _)]
  | entityRelation =>
      have hcolumns := isUnset_canonicalColumns (isUnset_emptyIfUnset "columns" element)
      simp only [recipe]
      rw [emptyIfUnset_eq_self hcolumns, canonicalColumns_canonicalColumns]

/-- A link that is mended stays as it is. -/
theorem tidyLink_tidyLink (kind : Kind) (link : Fields) :
    (recipe kind).tidyLink ((recipe kind).tidyLink link) = (recipe kind).tidyLink link := by
  cases kind with
  | flowchart => rfl
  | sequence => exact canonicalWord_canonicalWord "type" link
  | classes => exact canonicalWord_canonicalWord "type" link
  | entityRelation => exact tidyCardinality_tidyCardinality link

/-! ### Declaring one element -/

namespace Recipe

variable (recipe : Recipe)

/-- The name of an element. -/
def nameOf? : Json → Option String
  | .object element => Fields.text? recipe.nameField element
  | _ => none

/-- An element without a name is not declared. -/
theorem declare_of_unnamed (h : element.text? recipe.nameField = none) :
    recipe.declare table element = (element, table) := by
  rw [declare, h]

/-- The element with its label filled in. -/
def labelled (raw id : String) (element : Fields) : Fields :=
  match recipe.labelField with
  | some field => fillLabel field (Text.trim raw) id element
  | none => element

/-- An element with a name gets its identifier, and its label if that is missing. -/
theorem declare_of_named {raw : String} (h : element.text? recipe.nameField = some raw) :
    recipe.declare table element =
      ((recipe.labelled raw (table.declare raw).1 element).set recipe.nameField
        (.string (table.declare raw).1), (table.declare raw).2) := by
  simp only [declare, h]
  generalize table.declare raw = declared
  rfl

/-- A label is given in its own field. -/
theorem labelled_local (raw id : String) :
    Fields.Local recipe.labelField.toList (recipe.labelled raw id) := by
  intro element name hname
  unfold labelled
  cases hfield : recipe.labelField with
  | some field =>
      rw [hfield] at hname
      exact fillLabel_local field _ id element name hname
  | none => rfl

/-- Declaring an element changes its name and its label. -/
theorem declare_local (table : Table) :
    Fields.Local (recipe.nameField :: recipe.labelField.toList) fun element =>
      (recipe.declare table element).1 := by
  intro element name hname
  rw [List.mem_cons, not_or] at hname
  show (recipe.declare table element).1.get? name = element.get? name
  cases hraw : element.text? recipe.nameField with
  | none => rw [declare_of_unnamed recipe hraw]
  | some raw =>
      rw [declare_of_named recipe hraw, Fields.get?_set_of_ne (Ne.symm hname.1)]
      exact recipe.labelled_local raw _ element name hname.2

@[simp] theorem declare_naming (table : Table) (element : Fields) :
    (recipe.declare table element).2.naming = table.naming := by
  cases hraw : element.text? recipe.nameField with
  | none => rw [declare_of_unnamed recipe hraw]
  | some raw => rw [declare_of_named recipe hraw, Table.declare_naming]

/-! ### Declaring a collection -/

/-- Declares and mends one item of a collection. -/
def declareItem (table : Table) : Json → Json × Table
  | .object element =>
    (.object (recipe.tidyElement (recipe.declare table element).1),
      (recipe.declare table element).2)
  | other => (other, table)

/-- Elements are declared one after the other. -/
theorem declareAll_cons (table : Table) (item : Json) (rest : List Json) :
    recipe.declareAll table (item :: rest) =
      ((recipe.declareItem table item).1 ::
        (recipe.declareAll (recipe.declareItem table item).2 rest).1,
        (recipe.declareAll (recipe.declareItem table item).2 rest).2) := by
  cases item <;> rfl

@[simp] theorem declareItem_naming (table : Table) (item : Json) :
    (recipe.declareItem table item).2.naming = table.naming := by
  cases item with
  | object element => exact recipe.declare_naming table element
  | _ => rfl

@[simp] theorem declareAll_naming : ∀ (table : Table) (items : List Json),
    (recipe.declareAll table items).2.naming = table.naming
  | _, [] => rfl
  | table, item :: rest => by
      rw [declareAll_cons, declareAll_naming _ rest, declareItem_naming]

/-- What holds of the repaired items can be said of the items before. -/
theorem forall_mem_declareAll_iff {naming : Identifier.Naming} {after before : Json → Prop}
    (h : ∀ (table : Table) item, table.naming = naming →
      (after (recipe.declareItem table item).1 ↔ before item)) :
    ∀ {table : Table} {items : List Json}, table.naming = naming →
      ((∀ item ∈ (recipe.declareAll table items).1, after item) ↔ ∀ item ∈ items, before item)
  | _, [], _ => iff_of_true (fun _ h => (nomatch h)) fun _ h => (nomatch h)
  | table, item :: rest, htable => by
      have hrest := (recipe.declareItem_naming table item).trans htable
      rw [declareAll_cons, List.forall_mem_cons, List.forall_mem_cons, h table item htable,
        forall_mem_declareAll_iff h hrest]

/-- What an element was declared as, from what it was before and after. -/
def declaration? (before after : Json) : Option Entry := do
  let raw ← recipe.nameOf? before
  let id ← recipe.nameOf? after
  return ⟨Text.trim raw, id⟩

/-- The declarations of a collection, in order. -/
def declarations (before after : List Json) : List Entry :=
  (before.zip after).filterMap fun item => recipe.declaration? item.1 item.2

end Recipe

/-- The identifier that an element is given stands in its name field. -/
theorem text?_nameField_declare (kind : Kind) {raw : String} (table : Table)
    (h : element.text? (recipe kind).nameField = some raw) :
    ((recipe kind).tidyElement ((recipe kind).declare table element).1).text?
      (recipe kind).nameField = some (table.declare raw).1 := by
  rw [(tidyElement_local kind).text? (nameField_not_mem_tidied kind),
    Recipe.declare_of_named _ h, Fields.text?_set_self]

/-- The label that an element is given stands in its label field. -/
theorem text?_labelField_declare (kind : Kind) {raw field : String} (table : Table)
    (hraw : element.text? (recipe kind).nameField = some raw)
    (hfield : (recipe kind).labelField = some field) :
    ((recipe kind).tidyElement ((recipe kind).declare table element).1).text? field =
      (fillLabel field (Text.trim raw) (table.declare raw).1 element).text? field := by
  have hnot := labelField_not_mem_tidied kind field hfield
  rw [List.mem_cons, not_or] at hnot
  rw [(tidyElement_local kind).text? hnot.2, Recipe.declare_of_named _ hraw,
    Fields.text?_set_of_ne (Ne.symm hnot.1), Recipe.labelled, hfield]

/-- The type of a repaired node spells what the type meant before. -/
theorem text?_type_repaired_node_iff (table : Table) (node : Fields) {word : NodeKind} :
    ((recipe .flowchart).tidyElement ((recipe .flowchart).declare table node).1).text? "type" =
        some (Vocabulary.spelling word) ↔
      (node.text? "type").bind Vocabulary.ofLoose? = some word := by
  have hdeclare := ((recipe .flowchart).declare_local table).text? (show "type" ∉ _ by decide) node
  rw [← hdeclare]
  exact text?_canonicalWord_eq_spelling_iff

/-- The lists of a repaired class are those that it had, or empty where there were none. -/
theorem items?_repaired_class {field : String} (h : field ∈ tidiedOfElement .classes)
    (table : Table) (box : Fields) :
    ((recipe .classes).tidyElement ((recipe .classes).declare table box).1).items? field =
      if isUnset field box = true then some [] else box.items? field := by
  have hdeclare := (recipe .classes).declare_local table box
  -- each of the two lists is filled in without touching the other
  rcases List.mem_cons.1 h with rfl | h
  · have hget := emptyIfUnset_local "methods" (emptyIfUnset "properties"
      ((recipe .classes).declare table box).1) "properties" (by decide)
    refine (congrArg (Option.bind · _) hget).trans ((items?_emptyIfUnset _ _).trans ?_)
    rw [isUnset, Fields.items?, hdeclare "properties" (by decide)]
    rfl
  · rw [List.mem_singleton.1 h]
    have hget := (emptyIfUnset_local "properties" ((recipe .classes).declare table box).1 "methods"
      (by decide)).trans (hdeclare "methods" (by decide))
    refine (items?_emptyIfUnset _ _).trans ?_
    rw [isUnset, Fields.items?, hget]
    rfl

/-- The columns of a repaired entity are those that it had, mended, or none where there were
none. -/
theorem items?_repaired_entity (table : Table) (entity : Fields) :
    ((recipe .entityRelation).tidyElement
      ((recipe .entityRelation).declare table entity).1).items? "columns" =
        if isUnset "columns" entity = true then some []
        else (entity.items? "columns").map (List.map canonicalColumn) := by
  have hdeclare := (recipe .entityRelation).declare_local table entity "columns" (by decide)
  refine (items?_canonicalColumns _).trans ?_
  rw [items?_emptyIfUnset, isUnset, Fields.items?, hdeclare]
  exact apply_ite _ _ _ _

/-- **An element has a name after its repair if it had one before**, and then the identifier that it
was declared with. -/
theorem nameOf?_declareItem (table : Table) (item : Json) :
    (recipe kind).nameOf? ((recipe kind).declareItem table item).1 =
      ((recipe kind).nameOf? item).map fun raw => (table.declare raw).1 := by
  cases item with
  | object element =>
      show Fields.text? _ _ = (Fields.text? _ element).map _
      cases hraw : Fields.text? (recipe kind).nameField element with
      | none =>
          rw [Recipe.declare_of_unnamed _ hraw,
            (tidyElement_local kind).text? (nameField_not_mem_tidied kind), hraw]
          rfl
      | some raw => exact text?_nameField_declare kind table hraw
  | _ => rfl

/-- What is declared of an element is its trimmed name with its identifier. -/
theorem declaration?_declareItem (table : Table) (item : Json) :
    (recipe kind).declaration? item ((recipe kind).declareItem table item).1 =
      ((recipe kind).nameOf? item).map fun raw => ⟨Text.trim raw, (table.declare raw).1⟩ := by
  rw [Recipe.declaration?, nameOf?_declareItem]
  cases (recipe kind).nameOf? item <;> rfl

/-- **One step of the table:** the declaration that can be read off the element. -/
theorem declareItem_entries (table : Table) (item : Json) :
    ((recipe kind).declareItem table item).2.entries =
      ((recipe kind).declaration? item ((recipe kind).declareItem table item).1).toList ++
        table.entries := by
  rw [declaration?_declareItem]
  cases item with
  | object element =>
      show ((recipe kind).declare table element).2.entries = _
      rw [Recipe.nameOf?]
      cases hraw : Fields.text? (recipe kind).nameField element with
      | none =>
          rw [Recipe.declare_of_unnamed _ hraw]
          rfl
      | some raw =>
          rw [Recipe.declare_of_named _ hraw, Table.declare_entries]
          rfl
  | _ => rfl

theorem declarations_declareAll_cons (table : Table) (item : Json) (rest : List Json) :
    (recipe kind).declarations (item :: rest) ((recipe kind).declareAll table (item :: rest)).1 =
      ((recipe kind).declaration? item ((recipe kind).declareItem table item).1).toList ++
        (recipe kind).declarations rest
          ((recipe kind).declareAll ((recipe kind).declareItem table item).2 rest).1 := by
  rw [Recipe.declareAll_cons, Recipe.declarations, List.zip_cons_cons, List.filterMap_cons]
  cases (recipe kind).declaration? item ((recipe kind).declareItem table item).1 <;> rfl

/-- **The table of a whole collection:** its declarations, the latest first. -/
theorem declareAll_entries : ∀ (table : Table) (items : List Json),
    ((recipe kind).declareAll table items).2.entries =
      ((recipe kind).declarations items ((recipe kind).declareAll table items).1).reverse ++
        table.entries
  | _, [] => rfl
  | table, item :: rest => by
      rw [declarations_declareAll_cons, Recipe.declareAll_cons, declareAll_entries _ rest,
        declareItem_entries, List.reverse_append, List.append_assoc]
      cases (recipe kind).declaration? item ((recipe kind).declareItem table item).1 <;> rfl

/-- The declared names are the trimmed names of the elements, in order. -/
theorem map_name_declarations : ∀ (table : Table) (items : List Json),
    ((recipe kind).declarations items ((recipe kind).declareAll table items).1).map Entry.name =
      (items.filterMap (recipe kind).nameOf?).map Text.trim
  | _, [] => rfl
  | table, item :: rest => by
      rw [declarations_declareAll_cons, List.map_append, map_name_declarations _ rest,
        declaration?_declareItem, List.filterMap_cons]
      cases (recipe kind).nameOf? item <;> rfl

/-- The declared identifiers are the names of the repaired elements, in order. -/
theorem map_id_declarations : ∀ (table : Table) (items : List Json),
    ((recipe kind).declarations items ((recipe kind).declareAll table items).1).map Entry.id =
      ((recipe kind).declareAll table items).1.filterMap (recipe kind).nameOf?
  | _, [] => rfl
  | table, item :: rest => by
      rw [declarations_declareAll_cons, List.map_append, map_id_declarations _ rest,
        declaration?_declareItem, Recipe.declareAll_cons, List.filterMap_cons,
        nameOf?_declareItem]
      cases (recipe kind).nameOf? item with
      | none => rfl
      | some raw => rw [Option.map_some, Option.map_some, Option.toList_some, List.map_singleton,
          List.singleton_append]

/-! ### Elements on which nothing is left to mend -/

/-- The name is admitted and the label shows, if there is a name, and the other fields are
mended. -/
structure Settled (kind : Kind) (element : Fields) : Prop where
  admits : ∀ name ∈ element.text? (recipe kind).nameField, kind.naming.Admits name
  labelled : ∀ name ∈ element.text? (recipe kind).nameField,
    ∀ field ∈ (recipe kind).labelField, hasLabel field element = true
  tidy : (recipe kind).tidyElement element = element

/-- Whether there is a label depends on its field only. -/
theorem hasLabel_of_get? {field : String} {element' : Fields}
    (h : element'.get? field = element.get? field) :
    hasLabel field element' = hasLabel field element := by
  rw [hasLabel, hasLabel, Fields.text?, Fields.text?, h]

/-- An admitted identifier shows. -/
theorem isBlankText_of_admits {id : String} (h : kind.naming.Admits id) :
    Text.isBlankText id = false := by
  have hne : Text.trim id ≠ "" := by
    rw [h.trim, Ne, ← String.toList_eq_nil_iff]
    exact (Identifier.isValid_iff.1 h.valid).1
  rw [← h.trim]
  exact Text.isBlankText_trim hne

/-- **A repaired element is settled.** -/
theorem settled_declare (htable : table.naming = kind.naming) (element : Fields) :
    Settled kind ((recipe kind).tidyElement ((recipe kind).declare table element).1) := by
  have hlocal := tidyElement_local kind
  cases hraw : element.text? (recipe kind).nameField with
  | none =>
      have hnone : ((recipe kind).tidyElement element).text? (recipe kind).nameField = none := by
        rw [hlocal.text? (nameField_not_mem_tidied kind), hraw]
      rw [Recipe.declare_of_unnamed _ hraw]
      refine ⟨fun name hname => ?_, fun name hname => ?_, tidyElement_tidyElement kind element⟩
      · rw [hnone] at hname
        cases hname
      · rw [hnone] at hname
        cases hname
  | some raw =>
      have hid := text?_nameField_declare kind table hraw
      have hadmits : kind.naming.Admits (table.declare raw).1 := by
        rw [← htable]
        exact Table.declare_admits (htable ▸ kind.naming_sound) raw
      refine ⟨fun name hname => ?_, fun _ _ field hfield => ?_, tidyElement_tidyElement kind _⟩
      · rw [hid, Option.mem_some_iff] at hname
        rw [← hname]
        exact hadmits
      · have hnot := labelField_not_mem_tidied kind field hfield
        rw [List.mem_cons, not_or] at hnot
        rw [hasLabel_of_get? (hlocal _ field hnot.2), Recipe.declare_of_named _ hraw,
          hasLabel_of_get? (Fields.get?_set_of_ne (Ne.symm hnot.1)), Recipe.labelled,
          Option.mem_def.1 hfield]
        exact hasLabel_fillLabel (isBlankText_of_admits hadmits) raw element

/-- A settled element is declared as it stands. -/
theorem declare_of_settled (htable : table.naming = kind.naming) (h : Settled kind element) :
    ((recipe kind).declare table element).1 = element := by
  cases hraw : element.text? (recipe kind).nameField with
  | none => rw [Recipe.declare_of_unnamed _ hraw]
  | some raw =>
      have hlabelled : ∀ id, (recipe kind).labelled raw id element = element := by
        intro id
        unfold Recipe.labelled
        split
        · next field hfield => exact fillLabel_eq_self (h.labelled raw hraw field hfield)
        · rfl
      rw [Recipe.declare_of_named _ hraw, hlabelled,
        Table.declare_of_admits (htable ▸ h.admits raw hraw)]
      exact Fields.set_eq_self (Fields.get?_of_text? hraw)

/-- **Repaired elements are settled.** -/
theorem settled_of_mem_declareAll : ∀ {table : Table} {items : List Json},
    table.naming = kind.naming →
      ∀ element, .object element ∈ ((recipe kind).declareAll table items).1 → Settled kind element
  | _, [], _, _, h => nomatch h
  | table, item :: rest, htable, element, h => by
      rw [Recipe.declareAll_cons] at h
      rcases List.mem_cons.1 h with hitem | hrest
      · cases item with
        | object fields =>
            cases hitem
            exact settled_declare htable fields
        | _ => cases hitem
      · exact settled_of_mem_declareAll ((Recipe.declareItem_naming _ table item).trans htable)
          element hrest

/-- **Settled elements are given back as they are.** -/
theorem declareAll_of_settled : ∀ {table : Table} {items : List Json},
    table.naming = kind.naming → (∀ element, .object element ∈ items → Settled kind element) →
      ((recipe kind).declareAll table items).1 = items
  | _, [], _, _ => rfl
  | table, item :: rest, htable, h => by
      have hrest := declareAll_of_settled
        ((Recipe.declareItem_naming (recipe kind) table item).trans htable)
        fun element helement => h element (List.mem_cons_of_mem _ helement)
      have hitem : ((recipe kind).declareItem table item).1 = item := by
        cases item with
        | object element =>
            have hsettled := h element (List.mem_cons_self ..)
            simp only [Recipe.declareItem]
            rw [declare_of_settled htable hsettled, hsettled.tidy]
        | _ => rfl
      rw [Recipe.declareAll_cons, hrest, hitem]

end Repair
end CodeDiagram
