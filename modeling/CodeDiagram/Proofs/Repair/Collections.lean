/-
# The two collections of a repaired plan

A repair replaces the two collections of a plan and leaves its other fields
alone.  The elements become the declared and mended ones, and the links those
that have both ends, rewired (`items?_elements_applyFields`,
`items?_links_applyFields`).

The table against which the links are resolved holds the declarations of the
elements, which can be read off the plan and the repaired plan
(`table_entries`).  An end of a surviving link is therefore the name of an
element of the repaired plan (`mem_names_of_resolve?`).
-/

import CodeDiagram.Proofs.Repair.Recipe

namespace CodeDiagram

open Json (Fields)
open Identifier (Entry Table)

namespace Repair

variable {kind : Kind} {table : Table} {plan link : Fields} {item item' : Json}

/-! ### Replacing collections -/

namespace Recipe

theorem get?_replaceItems_of_ne {field other : String} (h : field ≠ other)
    (items : Option (List Json)) (plan : Fields) :
    (replaceItems field items plan).get? other = plan.get? other := by
  cases items with
  | some items => exact Fields.get?_set_of_ne h
  | none => rfl

theorem items?_replaceItems_of_ne {field other : String} (h : field ≠ other)
    (items : Option (List Json)) (plan : Fields) :
    (replaceItems field items plan).items? other = plan.items? other := by
  rw [Fields.items?, Fields.items?, get?_replaceItems_of_ne h]

/-- What stands in a replaced collection, if a collection is only replaced where there is one. -/
theorem items?_replaceItems {field : String} {items : Option (List Json)}
    (h : items = none → plan.items? field = none) :
    (replaceItems field items plan).items? field = items := by
  cases items with
  | some items => exact Fields.items?_set_self
  | none => exact h rfl

theorem replaceItems_eq_self {field : String} (plan : Fields) :
    replaceItems field (plan.items? field) plan = plan := by
  cases hitems : plan.items? field with
  | some items => exact Fields.set_eq_self (Fields.get?_of_items? hitems)
  | none => rfl

variable (recipe : Recipe)

/-- The elements that are declared are those that are kept, if there is a collection at all. -/
theorem declared_fst (plan : Fields) :
    (recipe.declared plan).1 = (plan.items? recipe.elements).map fun items =>
      (recipe.declareAll (.empty recipe.naming) (items.filter recipe.keeps)).1 := by
  rw [declared]
  cases plan.items? recipe.elements <;> rfl

theorem declared_snd (plan : Fields) :
    (recipe.declared plan).2 = (recipe.declareAll (.empty recipe.naming)
      (((plan.items? recipe.elements).getD []).filter recipe.keeps)).2 := by
  rw [declared]
  cases plan.items? recipe.elements <;> rfl

theorem applyFields_eq (plan : Fields) :
    recipe.applyFields plan =
      replaceItems recipe.links ((plan.items? recipe.links).map fun links =>
          links.filterMap (recipe.rewire? (recipe.declared plan).2))
        (replaceItems recipe.elements (recipe.declared plan).1 plan) := rfl

@[simp] theorem declared_naming (plan : Fields) :
    (recipe.declared plan).2.naming = recipe.naming := by
  rw [declared_snd, declareAll_naming]
  rfl

end Recipe

/-- **The elements of a repaired plan.** -/
theorem items?_elements_applyFields (kind : Kind) (plan : Fields) :
    ((recipe kind).applyFields plan).items? (recipe kind).elements =
      (plan.items? (recipe kind).elements).map fun items =>
        ((recipe kind).declareAll (.empty (recipe kind).naming)
          (items.filter (recipe kind).keeps)).1 := by
  rw [← Recipe.declared_fst, Recipe.applyFields_eq,
    Recipe.items?_replaceItems_of_ne (elements_ne_links kind).symm, Recipe.items?_replaceItems]
  intro hnone
  rw [Recipe.declared_fst, Option.map_eq_none_iff] at hnone
  exact hnone

/-- **The links of a repaired plan.** -/
theorem items?_links_applyFields (kind : Kind) (plan : Fields) :
    ((recipe kind).applyFields plan).items? (recipe kind).links =
      (plan.items? (recipe kind).links).map fun links =>
        links.filterMap ((recipe kind).rewire? ((recipe kind).declared plan).2) := by
  rw [Recipe.applyFields_eq, Recipe.items?_replaceItems]
  intro hnone
  rw [Recipe.items?_replaceItems_of_ne (elements_ne_links kind)]
  exact Option.map_eq_none_iff.1 hnone

/-! ### Rewiring a link -/

namespace Recipe

variable (recipe : Recipe)

/-- A link between two elements, mended. -/
def rewired (source target : String) (link : Fields) : Fields :=
  recipe.tidyLink ((link.set "from" (.string source)).set "to" (.string target))

theorem rewire?_object (table : Table) (link : Fields) :
    recipe.rewire? table (.object link) =
      ((link.text? "from").bind table.resolve?).bind fun source =>
        ((link.text? "to").bind table.resolve?).map fun target =>
          .object (recipe.rewired source target link) := by
  show (recipe.rewireFields? table link).map Json.object = _
  unfold rewireFields?
  cases (link.text? "from").bind table.resolve? with
  | none => rfl
  | some source =>
      cases (link.text? "to").bind table.resolve? with
      | none => rfl
      | some target => rfl

/-- **The links that survive** are the objects with two ends that mean an element. -/
theorem rewire?_eq_some_iff : recipe.rewire? table item = some item' ↔
    ∃ (link : Fields) (source target : String), item = .object link ∧
      (link.text? "from").bind table.resolve? = some source ∧
      (link.text? "to").bind table.resolve? = some target ∧
      item' = .object (recipe.rewired source target link) := by
  constructor
  · intro h
    cases item with
    | object link =>
        rw [rewire?_object, Option.bind_eq_some_iff] at h
        obtain ⟨source, hsource, h⟩ := h
        obtain ⟨target, htarget, rfl⟩ := Option.map_eq_some_iff.1 h
        exact ⟨link, source, target, rfl, hsource, htarget, rfl⟩
    | _ => cases h
  · rintro ⟨link, source, target, rfl, hsource, htarget, rfl⟩
    rw [rewire?_object, hsource, htarget]
    rfl

end Recipe

theorem text?_from_rewired (kind : Kind) (source target : String) (link : Fields) :
    ((recipe kind).rewired source target link).text? "from" = some source := by
  rw [Recipe.rewired, (tidyLink_local kind).text? (ends_not_mem_tidied kind).1,
    Fields.text?_set_of_ne (by decide), Fields.text?_set_self]

theorem text?_to_rewired (kind : Kind) (source target : String) (link : Fields) :
    ((recipe kind).rewired source target link).text? "to" = some target := by
  rw [Recipe.rewired, (tidyLink_local kind).text? (ends_not_mem_tidied kind).2,
    Fields.text?_set_self]

/-- Setting the ends of a link leaves its other fields alone. -/
theorem get?_set_ends (source target : String) {field : String} (h : field ∉ ["from", "to"])
    (link : Fields) :
    ((link.set "from" (.string source)).set "to" (.string target)).get? field =
      link.get? field := by
  rw [List.mem_cons, List.mem_singleton, not_or] at h
  rw [Fields.get?_set_of_ne (Ne.symm h.2), Fields.get?_set_of_ne (Ne.symm h.1)]

theorem text?_set_ends (source target : String) {field : String} (h : field ∉ ["from", "to"])
    (link : Fields) :
    ((link.set "from" (.string source)).set "to" (.string target)).text? field =
      link.text? field := by
  rw [Fields.text?, Fields.text?, get?_set_ends source target h]

/-- Rewiring leaves alone all fields but the ends and those that are mended. -/
theorem get?_rewired (source target : String) {field : String}
    (h : field ∉ "from" :: "to" :: tidiedOfLink kind) (link : Fields) :
    ((recipe kind).rewired source target link).get? field = link.get? field := by
  obtain ⟨hends, htidied⟩ : field ∉ ["from", "to"] ∧ field ∉ tidiedOfLink kind := by
    rw [← not_or, ← List.mem_append]
    exact h
  rw [Recipe.rewired, tidyLink_local kind _ field htidied, get?_set_ends source target hends]

theorem text?_rewired (source target : String) {field : String}
    (h : field ∉ "from" :: "to" :: tidiedOfLink kind) (link : Fields) :
    ((recipe kind).rewired source target link).text? field = link.text? field := by
  rw [Fields.text?, Fields.text?, get?_rewired source target h]

/-- The type of a rewired link spells what the type meant before, if types are mended. -/
theorem text?_type_rewired_iff {α : Type} [Vocabulary α] [Vocabulary.Lawful α] {word : α}
    (h : (recipe kind).tidyLink = canonicalWord α "type") (source target : String)
    (link : Fields) :
    ((recipe kind).rewired source target link).text? "type" = some (Vocabulary.spelling word) ↔
      (link.text? "type").bind Vocabulary.ofLoose? = some word := by
  rw [Recipe.rewired, h, text?_canonicalWord_eq_spelling_iff,
    text?_set_ends source target (by decide)]

theorem text?_cardinality_rewired (source target : String) (link : Fields) :
    ((recipe .entityRelation).rewired source target link).text? "cardinality" =
      (link.text? "cardinality").map canonicalCardinality := by
  refine (text?_tidyCardinality _).trans ?_
  rw [text?_set_ends source target (by decide)]

/-- Rewiring a rewired link to the same ends changes nothing. -/
theorem rewired_rewired (source target : String) (link : Fields) :
    (recipe kind).rewired source target ((recipe kind).rewired source target link) =
      (recipe kind).rewired source target link := by
  have hsource := Fields.get?_of_text? (text?_from_rewired kind source target link)
  have htarget := Fields.get?_of_text? (text?_to_rewired kind source target link)
  have htwice : ∀ link : Fields, link.get? "from" = some (.string source) →
      link.get? "to" = some (.string target) →
      (recipe kind).rewired source target link = (recipe kind).tidyLink link := by
    intro link hfrom hto
    rw [Recipe.rewired, Fields.set_eq_self hfrom, Fields.set_eq_self hto]
  rw [htwice _ hsource htarget]
  exact tidyLink_tidyLink kind _

/-! ### The table of a repair -/

/-- The elements of a plan that a repair keeps. -/
def keptElements (kind : Kind) (plan : Json) : List Json :=
  ((plan.collection? (recipe kind).elements).getD []).filter (recipe kind).keeps

/-- The elements of the repaired plan. -/
def repairedElements (kind : Kind) (plan : Json) : List Json :=
  ((plan.repair kind).collection? (recipe kind).elements).getD []

/-- What the elements of a plan are declared as, in order: the trimmed name that an element has in
the plan, and the name that it has in the repaired plan. -/
def declarations (kind : Kind) (plan : Json) : List Entry :=
  (recipe kind).declarations (keptElements kind plan) (repairedElements kind plan)

theorem eq_repairedElements {plan : Json} {items : List Json}
    (h : (plan.repair kind).collection? (recipe kind).elements = some items) :
    items = repairedElements kind plan := by
  rw [repairedElements, h]
  rfl

theorem keptElements_object (kind : Kind) (plan : Fields) :
    keptElements kind (.object plan) =
      ((plan.items? (recipe kind).elements).getD []).filter (recipe kind).keeps := rfl

/-- The repaired elements are the kept ones, declared and mended. -/
theorem repairedElements_object (kind : Kind) (plan : Fields) :
    repairedElements kind (.object plan) = ((recipe kind).declareAll (.empty (recipe kind).naming)
      (keptElements kind (.object plan))).1 := by
  show (((recipe kind).applyFields plan).items? (recipe kind).elements).getD [] = _
  rw [items?_elements_applyFields, keptElements_object]
  cases plan.items? (recipe kind).elements <;> rfl

/-- Where no element is dropped, the repaired elements are all elements, declared and mended. -/
theorem repairedElements_eq_declareAll {plan : Json} {items : List Json}
    (hitems : plan.collection? (recipe kind).elements = some items)
    (hkeeps : ∀ item ∈ items, (recipe kind).keeps item = true) :
    keptElements kind plan = items ∧
      repairedElements kind plan =
        ((recipe kind).declareAll (.empty (recipe kind).naming) items).1 := by
  have hkept : keptElements kind plan = items := by
    rw [keptElements, hitems]
    exact List.filter_eq_self.2 hkeeps
  obtain ⟨fields, hfields, -⟩ := Option.bind_eq_some_iff.1 hitems
  rw [Json.fields?_eq_some_iff] at hfields
  subst hfields
  rw [repairedElements_object, hkept]
  exact ⟨rfl, rfl⟩

/-- Repair makes no object of what is none, and no other value of an object. -/
theorem fields?_repair_eq_none_iff (kind : Kind) {plan : Json} :
    (plan.repair kind).fields? = none ↔ plan.fields? = none := by
  cases plan with
  | object fields => exact ⟨fun h => (nomatch h), fun h => (nomatch h)⟩
  | _ => exact Iff.rfl

/-- Repair adds and removes no collection of elements. -/
theorem collection?_elements_repair_eq_none_iff (kind : Kind) {plan : Json} :
    (plan.repair kind).collection? (recipe kind).elements = none ↔
      plan.collection? (recipe kind).elements = none := by
  cases plan with
  | object fields =>
      show ((recipe kind).applyFields fields).items? (recipe kind).elements = none ↔
        Fields.items? (recipe kind).elements fields = none
      rw [items?_elements_applyFields, Option.map_eq_none_iff]
  | _ => exact Iff.rfl

theorem collection?_elements_repair {plan : Json} {items : List Json}
    (h : plan.collection? (recipe kind).elements = some items) :
    (plan.repair kind).collection? (recipe kind).elements = some (repairedElements kind plan) := by
  have hsome := mt (collection?_elements_repair_eq_none_iff kind).1 (h ▸ Option.some_ne_none _)
  obtain ⟨items', hitems'⟩ := Option.ne_none_iff_exists'.1 hsome
  rw [hitems', eq_repairedElements hitems']

/-- **The table of a repair** holds the declarations of the elements, the latest first. -/
theorem table_entries (kind : Kind) (plan : Fields) :
    ((recipe kind).declared plan).2.entries = (declarations kind (.object plan)).reverse := by
  rw [declarations, repairedElements_object, Recipe.declared_snd, ← keptElements_object,
    declareAll_entries]
  exact List.append_nil _

/-- The names that are declared are the trimmed names of the kept elements. -/
theorem map_name_declarations_repair (kind : Kind) (plan : Json) :
    (declarations kind plan).map Entry.name =
      ((keptElements kind plan).filterMap (recipe kind).nameOf?).map Text.trim := by
  cases plan with
  | object fields =>
      rw [declarations, repairedElements_object]
      exact map_name_declarations _ _
  | _ => rfl

/-- The identifiers that are declared are the names of the repaired elements. -/
theorem map_id_declarations_repair (kind : Kind) (plan : Json) :
    (declarations kind plan).map Entry.id =
      (repairedElements kind plan).filterMap (recipe kind).nameOf? := by
  cases plan with
  | object fields =>
      rw [declarations, repairedElements_object]
      exact map_id_declarations _ _
  | _ => rfl

/-- **An end of a surviving link is the name of a repaired element.** -/
theorem mem_names_of_resolve? {raw id : String}
    (h : ((recipe kind).declared plan).2.resolve? raw = some id) :
    id ∈ (repairedElements kind (.object plan)).filterMap (recipe kind).nameOf? := by
  have hid := Table.mem_ids_of_resolve? h
  rw [Table.ids, table_entries, List.map_reverse, List.mem_reverse] at hid
  rw [← map_id_declarations_repair]
  exact hid

/-- **Repaired elements are settled.** -/
theorem settled_of_mem_repairedElements {plan : Json} {element : Fields}
    (h : .object element ∈ repairedElements kind plan) : Settled kind element := by
  cases plan with
  | object fields =>
      rw [repairedElements_object] at h
      exact settled_of_mem_declareAll (recipe_naming kind) element h
  | _ => cases h

/-- The name of a repaired element is admitted. -/
theorem admits_of_mem_names {plan : Json} {name : String}
    (h : name ∈ (repairedElements kind plan).filterMap (recipe kind).nameOf?) :
    kind.naming.Admits name := by
  obtain ⟨item, hitem, hname⟩ := List.mem_filterMap.1 h
  cases item with
  | object element => exact (settled_of_mem_repairedElements hitem).admits name hname
  | _ => cases hname

end Repair
end CodeDiagram
