/-
# What a repair leaves alone

A repair works in place: it takes elements and links out of their collections
and changes fields of those that stay, and it does nothing else.  The fields
that may change are these.

| kind | of an element | of a link |
| --- | --- | --- |
| flowchart | `id`, `label`, `type` | `from`, `to` |
| sequence | `alias`, `description` | `from`, `to`, `type` |
| class | `id`, `properties`, `methods` | `from`, `to`, `type` |
| entity relation | `name`, `columns` | `from`, `to`, `cardinality` |

A label that shows stays, a list of a class changes only where it is absent or
null, and in a list of columns only the keys of the columns change
(`ElementFrame`).  The plan keeps its fields, and of these only the two
collections change, if they are arrays (`PlanFrame`).  Plans, elements and
columns that are no objects are what they were (`InPlace`).

A collection of elements is repaired item by item while the table of names
grows, so its frame is an induction on the items with `inPlace_declareItem` as
the step (`Recipe.forall₂_declareAll`).
-/

import CodeDiagram.Proofs.Repair.Rewiring
import Mathlib.Data.List.Forall2

namespace CodeDiagram

open Json (Fields)
open Identifier (Table)

namespace Repair

variable {kind : Kind}

/-! ### The frame -/

/-- An object stands in the place of an object, related to it as said; any other value stays. -/
inductive InPlace (related : Fields → Fields → Prop) : Json → Json → Prop
  | object {before after : Fields} (h : related before after) :
      InPlace related (.object before) (.object after)
  | other {value : Json} (h : value.fields? = none) : InPlace related value value

/-- An object stays an object. -/
theorem InPlace.exists_object {related : Fields → Fields → Prop} {before : Fields} {after : Json}
    (h : InPlace related (.object before) after) :
    ∃ after', after = .object after' ∧ related before after' := by
  cases h with
  | object h => exact ⟨_, rfl, h⟩
  | other h => cases h

/-- The fields of an element that a repair may change. -/
def elementFields : Kind → List String
  | .flowchart => ["id", "label", "type"]
  | .sequence => ["alias", "description"]
  | .classes => ["id", "properties", "methods"]
  | .entityRelation => ["name", "columns"]

/-- The fields of a link that a repair may change. -/
def linkFields : Kind → List String
  | .flowchart => ["from", "to"]
  | .sequence => ["from", "to", "type"]
  | .classes => ["from", "to", "type"]
  | .entityRelation => ["from", "to", "cardinality"]

/-- The elements that stay: the usable nodes of a flowchart, and all elements of another plan. -/
def stayingElements : Kind → List Json → List Json
  | .flowchart, items => items.filter isUsableNode
  | _, items => items

/-- What may become of the columns of an entity: none were given and none are there, or they stand
in their places with other keys, or what is no list stays. -/
inductive ColumnsFrame : Option Json → Option Json → Prop
  | unset {before : Option Json} (h : before = none ∨ before = some .null) :
      ColumnsFrame before (some (.array []))
  | columns {columns columns' : List Json}
      (h : List.Forall₂ (InPlace (Fields.AgreesOff ["keys"])) columns columns') :
      ColumnsFrame (some (.array columns)) (some (.array columns'))
  | other {value : Json} (hnull : value ≠ .null) (hitems : value.items? = none) :
      ColumnsFrame (some value) (some value)

/-- What may become of an element. -/
structure ElementFrame (kind : Kind) (before after : Fields) : Prop where
  others : Fields.AgreesOff (elementFields kind) before after
  /-- A label is replaced only if it is missing, no text or blank. -/
  label : ∀ field ∈ (recipe kind).labelField, hasLabel field before = true →
    after.get? field = before.get? field
  /-- A list of a class is replaced only if it is absent or null, and then it is empty. -/
  lists : kind = .classes → ∀ field ∈ ["properties", "methods"],
    after.get? field = if isUnset field before = true then some (.array []) else before.get? field
  columns : kind = .entityRelation → ColumnsFrame (before.get? "columns") (after.get? "columns")

/-- What may become of a plan. -/
structure PlanFrame (kind : Kind) (before after : Fields) : Prop where
  keys : after.map Prod.fst = before.map Prod.fst
  others : Fields.AgreesOff [(recipe kind).elements, (recipe kind).links] before after
  /-- A collection that is no array stays. -/
  noItems : ∀ field, before.items? field = none → after.get? field = before.get? field
  elements : ∀ items, before.items? (recipe kind).elements = some items →
    ∃ items', after.items? (recipe kind).elements = some items' ∧
      List.Forall₂ (InPlace (ElementFrame kind)) (stayingElements kind items) items'
  links : ∀ links, before.items? (recipe kind).links = some links →
    ∃ sources links', List.Sublist sources links ∧
      after.items? (recipe kind).links = some links' ∧
      List.Forall₂ (InPlace (Fields.AgreesOff (linkFields kind))) sources links'

theorem elementFields_eq (kind : Kind) : elementFields kind =
    (recipe kind).nameField :: (recipe kind).labelField.toList ++ tidiedOfElement kind := by
  cases kind <;> rfl

theorem linkFields_eq (kind : Kind) : linkFields kind = "from" :: "to" :: tidiedOfLink kind := by
  cases kind <;> rfl

theorem filter_keeps (kind : Kind) (items : List Json) :
    items.filter (recipe kind).keeps = stayingElements kind items := by
  cases kind with
  | flowchart => rfl
  | _ => exact List.filter_eq_self.2 fun _ _ => rfl

/-! ### Columns -/

theorem inPlace_canonicalColumn (column : Json) :
    InPlace (Fields.AgreesOff ["keys"]) column (canonicalColumn column) := by
  cases column with
  | object fields => exact .object (canonicalKeys_local.agreesOff fields)
  | _ => exact .other rfl

theorem get?_canonicalColumns {entity : Fields} {columns : List Json}
    (h : entity.get? "columns" = some (.array columns)) :
    (canonicalColumns entity).get? "columns" = some (.array (columns.map canonicalColumn)) := by
  rw [← Fields.items?_eq_some_iff] at h ⊢
  rw [items?_canonicalColumns, h, Option.map_some]

theorem canonicalColumns_eq_self {entity : Fields} (h : entity.items? "columns" = none) :
    canonicalColumns entity = entity := by
  rw [canonicalColumns, h]

/-- **The columns of a mended entity.** -/
theorem columnsFrame_mended (entity : Fields) : ColumnsFrame (entity.get? "columns")
    ((canonicalColumns (emptyIfUnset "columns" entity)).get? "columns") := by
  cases hunset : isUnset "columns" entity with
  | true =>
      have hempty := get?_emptyIfUnset "columns" entity
      rw [if_pos hunset] at hempty
      -- The empty list that now stands there has no column to mend.
      rw [get?_canonicalColumns hempty]
      exact .unset (isUnset_iff.1 hunset)
  | false =>
      rw [emptyIfUnset_eq_self hunset]
      have hset := mt isUnset_iff.2 (Bool.eq_false_iff.1 hunset)
      rw [not_or] at hset
      obtain ⟨value, hvalue⟩ := Option.ne_none_iff_exists'.1 hset.1
      rw [hvalue]
      cases hitems : value.items? with
      | some columns =>
          rw [Json.items?_eq_some_iff] at hitems
          subst hitems
          rw [get?_canonicalColumns hvalue]
          exact .columns (List.forall₂_map_right_iff.2
            (List.forall₂_same.2 fun column _ => inPlace_canonicalColumn column))
      | none =>
          have hnone : entity.items? "columns" = none := by
            rw [Fields.items?, hvalue, Option.bind_some, hitems]
          rw [canonicalColumns_eq_self hnone, hvalue]
          exact .other (fun hnull => hset.2 (hvalue.trans (congrArg some hnull))) hitems

/-! ### Elements -/

/-- Declaring an element leaves alone what is mended beside its name and its label. -/
theorem get?_declare_of_mem_tidied (table : Table) (element : Fields) {field : String}
    (h : field ∈ tidiedOfElement kind) :
    ((recipe kind).declare table element).1.get? field = element.get? field := by
  refine (recipe kind).declare_local table element field fun hmem => ?_
  rcases List.mem_cons.1 hmem with rfl | hlabel
  · exact nameField_not_mem_tidied kind h
  · exact labelField_not_mem_tidied kind field (Option.mem_toList.1 hlabel)
      (List.mem_cons_of_mem _ h)

theorem isUnset_declare_of_mem_tidied (table : Table) (element : Fields) {field : String}
    (h : field ∈ tidiedOfElement kind) :
    isUnset field ((recipe kind).declare table element).1 = isUnset field element := by
  rw [isUnset, isUnset, get?_declare_of_mem_tidied table element h]

theorem Recipe.labelled_eq_self {recipe : Recipe} {element : Fields} {field raw id : String}
    (hfield : field ∈ recipe.labelField) (h : hasLabel field element = true) :
    recipe.labelled raw id element = element := by
  rw [labelled, Option.mem_def.1 hfield]
  exact fillLabel_eq_self h

/-- **Declaring an element leaves a label alone that shows.** -/
theorem get?_label_declare (table : Table) {element : Fields} {field : String}
    (hfield : field ∈ (recipe kind).labelField) (h : hasLabel field element = true) :
    ((recipe kind).declare table element).1.get? field = element.get? field := by
  have hname : field ≠ (recipe kind).nameField := fun heq =>
    labelField_not_mem_tidied kind field hfield (heq ▸ List.mem_cons_self)
  cases hraw : element.text? (recipe kind).nameField with
  | none => rw [Recipe.declare_of_unnamed _ hraw]
  | some raw =>
      rw [Recipe.declare_of_named _ hraw, Fields.get?_set_of_ne hname.symm,
        Recipe.labelled_eq_self hfield h]

/-- The lists of a mended class are empty where they were unset. -/
theorem get?_lists_mended (element : Fields) {field : String}
    (h : field ∈ ["properties", "methods"]) :
    (emptyIfUnset "methods" (emptyIfUnset "properties" element)).get? field =
      if isUnset field element = true then some (.array []) else element.get? field := by
  have hproperties := emptyIfUnset_local "properties"
  rw [List.mem_cons, List.mem_singleton] at h
  rcases h with rfl | rfl
  · rw [emptyIfUnset_local "methods" _ _ (by decide), get?_emptyIfUnset]
  · rw [get?_emptyIfUnset, isUnset_of_local hproperties (by decide),
      hproperties _ _ (by decide)]

/-- **An element is changed where it is mended.** -/
theorem elementFrame_mended (kind : Kind) (table : Table) (element : Fields) :
    ElementFrame kind element
      ((recipe kind).tidyElement ((recipe kind).declare table element).1) where
  others := by
    rw [elementFields_eq]
    exact ((tidyElement_local kind).comp ((recipe kind).declare_local table)).agreesOff element
  label field hfield h := by
    have htidied : field ∉ tidiedOfElement kind := fun hmem =>
      labelField_not_mem_tidied kind field hfield (List.mem_cons_of_mem _ hmem)
    rw [tidyElement_local kind _ field htidied, get?_label_declare table hfield h]
  lists := by
    rintro rfl field hfield
    have htidied : field ∈ tidiedOfElement .classes := hfield
    rw [← isUnset_declare_of_mem_tidied table element htidied,
      ← get?_declare_of_mem_tidied table element htidied]
    exact get?_lists_mended _ hfield
  columns := by
    rintro rfl
    have htidied : "columns" ∈ tidiedOfElement .entityRelation := List.mem_singleton_self _
    rw [← get?_declare_of_mem_tidied table element htidied]
    exact columnsFrame_mended _

/-- **What a step does to an item.** -/
theorem inPlace_declareItem (kind : Kind) (table : Table) (item : Json) :
    InPlace (ElementFrame kind) item ((recipe kind).declareItem table item).1 := by
  cases item with
  | object element => exact .object (elementFrame_mended kind table element)
  | _ => exact .other rfl

/-- What a step does to every item, whatever the table, a repair does to the collection. -/
theorem Recipe.forall₂_declareAll {recipe : Recipe} {related : Json → Json → Prop}
    (h : ∀ table item, related item (recipe.declareItem table item).1) :
    ∀ (table : Table) (items : List Json),
      List.Forall₂ related items (recipe.declareAll table items).1
  | _, [] => .nil
  | table, item :: rest => by
      rw [declareAll_cons]
      exact .cons (h table item) (forall₂_declareAll h _ rest)

/-! ### Links -/

theorem inPlace_of_rewired? {plan link link' : Json} (h : rewired? kind plan link = some link') :
    InPlace (Fields.AgreesOff (linkFields kind)) link link' := by
  obtain ⟨link, source, target, rfl, rfl, -⟩ := exists_of_rewired? h
  rw [linkFields_eq]
  exact .object fun field hfield => get?_rewired source target hfield link

/-- The values of a partial function stand beside the items that have one. -/
theorem exists_sublist_forall₂_filterMap {α β : Type} {related : α → β → Prop} {f : α → Option β}
    (h : ∀ a b, f a = some b → related a b) : ∀ items : List α,
      ∃ sources, List.Sublist sources items ∧ List.Forall₂ related sources (items.filterMap f)
  | [] => ⟨[], .slnil, .nil⟩
  | item :: rest => by
      obtain ⟨sources, hsub, hrelated⟩ := exists_sublist_forall₂_filterMap h rest
      rw [List.filterMap_cons]
      cases hitem : f item with
      | none => exact ⟨sources, hsub.cons item, hrelated⟩
      | some value => exact ⟨item :: sources, hsub.cons_cons item, .cons (h _ _ hitem) hrelated⟩

/-! ### Plans -/

namespace Recipe

/-- A collection is replaced where it stands. -/
theorem map_fst_replaceItems {field : String} {items : Option (List Json)} {plan : Fields}
    (h : plan.items? field = none → items = none) :
    (replaceItems field items plan).map Prod.fst = plan.map Prod.fst := by
  cases hitems : plan.items? field with
  | none =>
      rw [h hitems]
      rfl
  | some old =>
      cases items with
      | none => rfl
      | some items => exact Fields.map_fst_set (Fields.get?_of_items? hitems)

theorem get?_replaceItems {field other : String} {items : Option (List Json)} {plan : Fields}
    (h : field = other → items = none) :
    (replaceItems field items plan).get? other = plan.get? other := by
  by_cases heq : field = other
  · rw [h heq]
    rfl
  · exact get?_replaceItems_of_ne heq items plan

end Recipe

theorem map_fst_applyFields (kind : Kind) (plan : Fields) :
    ((recipe kind).applyFields plan).map Prod.fst = plan.map Prod.fst := by
  rw [Recipe.applyFields_eq, Recipe.map_fst_replaceItems, Recipe.map_fst_replaceItems]
  · intro hnone
    rw [Recipe.declared_fst, hnone, Option.map_none]
  · rw [Recipe.items?_replaceItems_of_ne (elements_ne_links kind)]
    intro hnone
    rw [hnone, Option.map_none]

/-- A field that is no collection of the kind, or holds no array, stays. -/
theorem get?_applyFields {plan : Fields} {field : String}
    (helements : (recipe kind).elements = field → plan.items? field = none)
    (hlinks : (recipe kind).links = field → plan.items? field = none) :
    ((recipe kind).applyFields plan).get? field = plan.get? field := by
  rw [Recipe.applyFields_eq, Recipe.get?_replaceItems, Recipe.get?_replaceItems]
  · rintro rfl
    rw [Recipe.declared_fst, helements rfl, Option.map_none]
  · rintro rfl
    rw [hlinks rfl, Option.map_none]

theorem planFrame_applyFields (kind : Kind) (plan : Fields) :
    PlanFrame kind plan ((recipe kind).applyFields plan) where
  keys := map_fst_applyFields kind plan
  others field hfield := by
    rw [List.mem_cons, List.mem_singleton, not_or] at hfield
    exact get?_applyFields (fun heq => absurd heq.symm hfield.1) fun heq =>
      absurd heq.symm hfield.2
  noItems field hnone := get?_applyFields (fun _ => hnone) fun _ => hnone
  elements items hitems := by
    rw [items?_elements_applyFields, hitems, ← filter_keeps]
    exact ⟨_, rfl, Recipe.forall₂_declareAll (inPlace_declareItem kind) _ _⟩
  links links hlinks := by
    have hrewired : ∀ link link', rewired? kind (.object plan) link = some link' →
        InPlace (Fields.AgreesOff (linkFields kind)) link link' := fun _ _ h =>
      inPlace_of_rewired? h
    obtain ⟨sources, hsub, hrelated⟩ := exists_sublist_forall₂_filterMap hrewired links
    rw [items?_links_applyFields, hlinks, rewire?_declared]
    exact ⟨sources, _, hsub, rfl, hrelated⟩

/-- **A repair touches only what it repairs.**  A plan that is no object stays.  Of an object all
fields stay but the two collections of the kind, and these stay if they are no arrays.  The elements
keep their order, and only unusable nodes of a flowchart are lost; the links that are left stand in
their order.  Of an element or a link only the fields of the kind change, a label only if it does
not show, and a list only if it is absent or null, apart from the keys of columns. -/
theorem frame_of_repair (kind : Kind) (plan : Json) :
    InPlace (PlanFrame kind) plan (plan.repair kind) := by
  cases plan with
  | object fields => exact .object (planFrame_applyFields kind fields)
  | _ => exact .other rfl

end Repair
end CodeDiagram
