/-
# Which links survive a repair, and as what

Section 8 of `SPEC_FULL.md`: "After sanitization, every surviving reference
resolves."

A link survives when it is an object whose ends both mean an element, and then
its ends become the identifiers of these elements (`rewired?`).  What an end
means is said without the table of names: it is the identifier of the last
element declared under the trimmed text, or else the cleaned text, if an
element has it as its identifier (`Identifier.meaning?`).  The declarations are
read off the two plans (`declarations`): the trimmed names of the elements that
are kept, beside the names that they have in the repaired plan.

`links_of_repair` says that the links of a repaired plan are the surviving ones
in their order, and that each end is the name of one of its elements.
-/

import CodeDiagram.Proofs.Repair.Collections

namespace CodeDiagram

open Json (Fields)
open Identifier (Entry meaning?)

namespace Repair

variable {kind : Kind}

/-- A link of a candidate plan as it stands in the repaired plan, if it survives. -/
def rewired? (kind : Kind) (plan : Json) : Json → Option Json
  | .object link => do
    let source ← (Fields.text? "from" link).bind (meaning? kind.naming (declarations kind plan))
    let target ← (Fields.text? "to" link).bind (meaning? kind.naming (declarations kind plan))
    return .object ((recipe kind).rewired source target link)
  | _ => none

/-- The links of the repaired plan. -/
def repairedLinks (kind : Kind) (plan : Json) : List Json :=
  ((plan.repair kind).collection? (recipe kind).links).getD []

theorem eq_repairedLinks {plan : Json} {items : List Json}
    (h : (plan.repair kind).collection? (recipe kind).links = some items) :
    items = repairedLinks kind plan := by
  rw [repairedLinks, h]
  rfl

/-- **The table of a repair answers what the declarations mean.** -/
theorem resolve?_declared (kind : Kind) (plan : Fields) :
    ((recipe kind).declared plan).2.resolve? =
      meaning? kind.naming (declarations kind (.object plan)) := by
  funext raw
  rw [Identifier.Table.resolve?_eq_meaning?, Recipe.declared_naming, recipe_naming, table_entries,
    List.reverse_reverse]

theorem rewire?_declared (kind : Kind) (plan : Fields) :
    (recipe kind).rewire? ((recipe kind).declared plan).2 = rewired? kind (.object plan) := by
  funext item
  cases item with
  | object link =>
      rw [Recipe.rewire?_object, resolve?_declared]
      show _ = Option.bind _ _
      congr 1
      funext source
      exact Option.map_eq_bind
  | _ => rfl

theorem collection?_links_repair (kind : Kind) (plan : Json) :
    (plan.repair kind).collection? (recipe kind).links =
      (plan.collection? (recipe kind).links).map fun links =>
        links.filterMap (rewired? kind plan) := by
  cases plan with
  | object fields =>
      rw [← rewire?_declared]
      exact items?_links_applyFields kind fields
  | _ => rfl

/-- Repair adds and removes no collection of links. -/
theorem collection?_links_repair_eq_none_iff (kind : Kind) {plan : Json} :
    (plan.repair kind).collection? (recipe kind).links = none ↔
      plan.collection? (recipe kind).links = none := by
  rw [collection?_links_repair, Option.map_eq_none_iff]

/-- The repaired links are the surviving ones, rewired. -/
theorem repairedLinks_eq (kind : Kind) (plan : Json) :
    repairedLinks kind plan =
      ((plan.collection? (recipe kind).links).getD []).filterMap (rewired? kind plan) := by
  rw [repairedLinks, collection?_links_repair]
  cases plan.collection? (recipe kind).links <;> rfl

theorem collection?_links_repair_of_some {plan : Json} {links : List Json}
    (h : plan.collection? (recipe kind).links = some links) :
    (plan.repair kind).collection? (recipe kind).links = some (repairedLinks kind plan) := by
  rw [repairedLinks, collection?_links_repair, h]
  rfl

/-- The links of a candidate plan that survive its repair, as they stand in the plan. -/
def survivingLinks (kind : Kind) (plan : Json) : List Json :=
  ((plan.collection? (recipe kind).links).getD []).filter fun link =>
    (rewired? kind plan link).isSome

/-- What a repair leaves alone in the links can be read off the surviving ones. -/
theorem map_repairedLinks {α : Type} {read : Json → α} {plan : Json}
    (h : ∀ link link', rewired? kind plan link = some link' → read link' = read link) :
    (repairedLinks kind plan).map read = (survivingLinks kind plan).map read := by
  rw [repairedLinks_eq, survivingLinks]
  induction (plan.collection? (recipe kind).links).getD [] with
  | nil => rfl
  | cons link links ih =>
      rw [List.filterMap_cons, List.filter_cons]
      cases hlink : rewired? kind plan link with
      | none => exact ih
      | some link' =>
          rw [if_pos Option.isSome_some, List.map_cons, List.map_cons, ih, h link link' hlink]

/-- What holds of the repaired links can be said of the surviving ones. -/
theorem forall_mem_repairedLinks_iff {plan : Json} {after before : Json → Prop}
    (h : ∀ link link', rewired? kind plan link = some link' → (after link' ↔ before link)) :
    (∀ link' ∈ repairedLinks kind plan, after link') ↔
      ∀ link ∈ survivingLinks kind plan, before link := by
  rw [repairedLinks_eq]
  constructor
  · intro hafter link hlink
    obtain ⟨hmem, hsome⟩ := List.mem_filter.1 hlink
    obtain ⟨link', hlink'⟩ := Option.isSome_iff_exists.1 hsome
    exact (h link link' hlink').1 (hafter link' (List.mem_filterMap.2 ⟨link, hmem, hlink'⟩))
  · intro hbefore link' hlink'
    obtain ⟨link, hmem, hlink⟩ := List.mem_filterMap.1 hlink'
    have hsome : (rewired? kind plan link).isSome = true := by rw [hlink, Option.isSome_some]
    exact (h link link' hlink).2 (hbefore link (List.mem_filter.2 ⟨hmem, hsome⟩))

/-- **A surviving link is rewired to names of repaired elements.** -/
theorem exists_of_rewired? {plan item item' : Json} (h : rewired? kind plan item = some item') :
    ∃ (link : Fields) (source target : String), item = .object link ∧
      item' = .object ((recipe kind).rewired source target link) ∧
      source ∈ (repairedElements kind plan).filterMap (recipe kind).nameOf? ∧
      target ∈ (repairedElements kind plan).filterMap (recipe kind).nameOf? := by
  cases item with
  | object link =>
      obtain ⟨source, hsource, h⟩ := Option.bind_eq_some_iff.1 h
      obtain ⟨target, htarget, h⟩ := Option.bind_eq_some_iff.1 h
      obtain ⟨_, -, hsource⟩ := Option.bind_eq_some_iff.1 hsource
      obtain ⟨_, -, htarget⟩ := Option.bind_eq_some_iff.1 htarget
      rw [← map_id_declarations_repair]
      exact ⟨link, source, target, rfl, (Option.some.inj h).symm,
        Identifier.mem_of_meaning? hsource, Identifier.mem_of_meaning? htarget⟩
  | _ => cases h

/-- **The ends of a repaired link** are names of repaired elements. -/
theorem ends_of_mem_repairedLinks {plan item : Json} (h : item ∈ repairedLinks kind plan) :
    ∃ (link : Fields) (source target : String), item = .object link ∧
      link.text? "from" = some source ∧ link.text? "to" = some target ∧
      source ∈ (repairedElements kind plan).filterMap (recipe kind).nameOf? ∧
      target ∈ (repairedElements kind plan).filterMap (recipe kind).nameOf? := by
  rw [repairedLinks_eq] at h
  obtain ⟨link, -, hlink⟩ := List.mem_filterMap.1 h
  obtain ⟨link, source, target, -, rfl, hsource, htarget⟩ := exists_of_rewired? hlink
  exact ⟨_, source, target, rfl, text?_from_rewired kind source target link,
    text?_to_rewired kind source target link, hsource, htarget⟩

/-- **Links are rewired exactly, and their ends are there.**  The links of a repaired plan are
those that survive, in their order.  The elements that count are those that are kept and have a
name; they are declared under their trimmed names, with the names of the repaired elements as
identifiers.  Beside its ends a link changes only in the field that is mended, and an end is the
name of an element of the repaired plan. -/
theorem links_of_repair (kind : Kind) (plan : Json) :
    (plan.repair kind).collection? (recipe kind).links =
        ((plan.collection? (recipe kind).links).map fun links =>
          links.filterMap (rewired? kind plan)) ∧
      (declarations kind plan).map Entry.name =
        ((keptElements kind plan).filterMap (recipe kind).nameOf?).map Text.trim ∧
      (declarations kind plan).map Entry.id =
        (repairedElements kind plan).filterMap (recipe kind).nameOf? ∧
      (∀ (source target field : String) (link : Fields),
        field ∉ "from" :: "to" :: tidiedOfLink kind →
          ((recipe kind).rewired source target link).get? field = link.get? field) ∧
      ∀ item ∈ repairedLinks kind plan, ∃ (link : Fields) (source target : String),
        item = .object link ∧ link.text? "from" = some source ∧ link.text? "to" = some target ∧
          source ∈ (repairedElements kind plan).filterMap (recipe kind).nameOf? ∧
          target ∈ (repairedElements kind plan).filterMap (recipe kind).nameOf? :=
  ⟨collection?_links_repair kind plan, map_name_declarations_repair kind plan,
    map_id_declarations_repair kind plan,
    fun source target _ link h => get?_rewired source target h link,
    fun _ h => ends_of_mem_repairedLinks h⟩

/-- A flowchart in which one name is declared twice, another is a reserved word, a third keeps no
letter and a fourth is dropped. -/
def tangled : Json :=
  .object
    [("nodes", .array
      [.object [("id", .string "??"), ("type", .string "start")],
        .object [("id", .string "end"), ("type", .string "Data")],
        .object [("id", .string " ?? "), ("type", .string "io")],
        .object [("id", .string "lost"), ("type", .string "hexagon")]]),
      ("edges", .array
        [.object [("from", .string "??"), ("to", .string "end"), ("label", .string "yes")],
          .object [("from", .string "lost"), ("to", .string "end")],
          .object [("from", .string "node_0"), ("to", .string "e-n-d")]])]

/-- The ends of a link. -/
def ends? : Json → Option (String × String)
  | .object link => do return (← Fields.text? "from" link, ← Fields.text? "to" link)
  | _ => none

/-- `links_of_repair` at work: the last `??` is `node_1`, and `e-n-d` is cleaned to the reserved
`end`, so to `end_`. -/
theorem links_of_repair_tangled :
    ((tangled.repair .flowchart).collection? (recipe .flowchart).links).map
        (fun links => links.map ends?) =
      some [some ("node_1", "end_"), some ("node_0", "end_")] ∧
    "label" ∉ "from" :: "to" :: tidiedOfLink .flowchart ∧
    ((recipe .flowchart).rewired "node_1" "end_" [("label", .string "yes")]).get? "label" =
      some (.string "yes") ∧
    ∃ item ∈ repairedLinks .flowchart tangled, ∃ (link : Fields) (source target : String),
      item = .object link ∧ link.text? "from" = some source ∧ link.text? "to" = some target ∧
        source ∈ (repairedElements .flowchart tangled).filterMap (recipe .flowchart).nameOf? ∧
        target ∈ (repairedElements .flowchart tangled).filterMap (recipe .flowchart).nameOf? := by
  obtain ⟨hlinks, -, -, hrewired, hends⟩ := links_of_repair .flowchart tangled
  have hlabel : "label" ∉ "from" :: "to" :: tidiedOfLink .flowchart := by decide
  have hlength : 0 < (repairedLinks .flowchart tangled).length := by decide +kernel
  refine ⟨?_, hlabel, hrewired "node_1" "end_" "label" [("label", .string "yes")] hlabel,
    (repairedLinks .flowchart tangled)[0], List.getElem_mem hlength,
    hends _ (List.getElem_mem hlength)⟩
  rw [hlinks]
  decide +kernel

end Repair
end CodeDiagram
