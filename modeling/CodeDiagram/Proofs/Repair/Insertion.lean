/-
# Junk does not interfere

A repair drops what it can make nothing of, and what it drops leaves no trace.
Items that are no nodes (`Unusable`) and entries that are no links of the plan
(`Dangling`) may be inserted anywhere into the two collections of a plan:

* a dropped node is dropped before anything is declared, so it takes no name
  and no number, and no reference means it (`applyFields_set_elements`);
* a dropped link is not there when the repaired plan is checked, so the paths
  of the entries behind it do not move (`applyFields_set_links`).

The repaired plan is the same value with and without them, hence so is the
diagram or the defect (`diagram_of_inserted`).
-/

import CodeDiagram.Pipeline
import CodeDiagram.Proofs.Repair.Idempotence
import CodeDiagram.Proofs.Repair.Rewiring

namespace CodeDiagram

open Json (Fields)
open Identifier (meaning?)

namespace Repair

/-! ### Lists with items inserted -/

/-- The second list is the first with any number of items inserted at any positions, each of them
of a certain sort. -/
inductive Inserted {α : Type} (sort : α → Prop) : List α → List α → Prop where
  | nil : Inserted sort [] []
  /-- The next item is in both lists. -/
  | keep {x : α} {xs ys : List α} : Inserted sort xs ys → Inserted sort (x :: xs) (x :: ys)
  /-- The next item is inserted. -/
  | insert {x : α} {xs ys : List α} : sort x → Inserted sort xs ys → Inserted sort xs (x :: ys)

namespace Inserted

variable {α β : Type} {sort : α → Prop} {xs ys : List α}

/-- A selection does not see what it drops. -/
theorem filterMap_eq {select : α → Option β} (hdrop : ∀ x, sort x → select x = none)
    (h : Inserted sort xs ys) : ys.filterMap select = xs.filterMap select := by
  induction h with
  | nil => rfl
  | keep _ ih => rw [List.filterMap_cons, List.filterMap_cons, ih]
  | insert hx _ ih => rw [List.filterMap_cons_none (hdrop _ hx), ih]

/-- Nothing is lost. -/
theorem subset (h : Inserted sort xs ys) : xs ⊆ ys := by
  induction h with
  | nil => exact List.Subset.refl _
  | keep _ ih => exact List.cons_subset_cons _ ih
  | insert _ _ ih => exact List.subset_cons_of_subset _ ih

theorem filter_eq {keeps : α → Bool} (hdrop : ∀ x, sort x → keeps x = false)
    (h : Inserted sort xs ys) : ys.filter keeps = xs.filter keeps := by
  rw [← List.filterMap_eq_filter]
  exact h.filterMap_eq fun x hx => if_neg (Bool.not_eq_true _ ▸ hdrop x hx)

end Inserted

variable {kind : Kind} {plan : Fields} {item : Json}

/-! ### What a repair drops -/

/-- The item is no node: it is not an object, or has no string name, or has no string type that is
known. -/
def Unusable : Json → Prop
  | .object node =>
    Fields.text? "id" node = none ∨
      (Fields.text? "type" node).bind (Vocabulary.ofLoose? (α := NodeKind)) = none
  | _ => True

/-- The entry is no link of the plan: it is not an object, or one of its two ends is no string or
means no element of the plan. -/
def Dangling (kind : Kind) (plan : Json) : Json → Prop
  | .object link =>
    (Fields.text? "from" link).bind (meaning? kind.naming (declarations kind plan)) = none ∨
      (Fields.text? "to" link).bind (meaning? kind.naming (declarations kind plan)) = none
  | _ => True

/-- The nodes that are dropped. -/
theorem isUsableNode_eq_false_iff : isUsableNode item = false ↔ Unusable item := by
  cases item with
  | object node =>
      rw [isUsableNode_object, Bool.and_eq_false_iff, Option.isSome_eq_false_iff,
        Option.isSome_eq_false_iff, Option.isNone_iff_eq_none, Option.isNone_iff_eq_none]
      exact Iff.rfl
  | _ => exact iff_of_true rfl trivial

/-- The links that are dropped. -/
theorem rewired?_eq_none_iff {plan : Json} : rewired? kind plan item = none ↔
    Dangling kind plan item := by
  cases item with
  | object link =>
      rw [rewired?, Dangling]
      cases (Fields.text? "from" link).bind (meaning? kind.naming (declarations kind plan)) with
      | none => exact iff_of_true rfl (.inl rfl)
      | some source =>
          cases (Fields.text? "to" link).bind (meaning? kind.naming (declarations kind plan)) with
          | none => exact iff_of_true rfl (.inr rfl)
          | some target =>
              exact iff_of_false (Option.some_ne_none _)
                (not_or.2 ⟨Option.some_ne_none _, Option.some_ne_none _⟩)
  | _ => exact iff_of_true rfl trivial

instance : DecidablePred Unusable := fun _ => decidable_of_iff _ isUsableNode_eq_false_iff

instance (kind : Kind) (plan : Json) : DecidablePred (Dangling kind plan) := fun _ =>
  decidable_of_iff _ (Option.isNone_iff_eq_none.trans rewired?_eq_none_iff)

/-! ### One collection at a time -/

/-- The table of a repair is made from the elements that are kept. -/
theorem declared_set_elements (kind : Kind) {elements elements' : List Json}
    (helements : plan.items? (recipe kind).elements = some elements)
    (hkept : elements'.filter (recipe kind).keeps = elements.filter (recipe kind).keeps) :
    (recipe kind).declared (plan.set (recipe kind).elements (.array elements')) =
      (recipe kind).declared plan := by
  simp only [Recipe.declared, Fields.items?_set_self, helements, hkept]

/-- **Elements that are dropped leave no trace in the repaired plan.** -/
theorem applyFields_set_elements (kind : Kind) {elements elements' : List Json}
    (helements : plan.items? (recipe kind).elements = some elements)
    (hkept : elements'.filter (recipe kind).keeps = elements.filter (recipe kind).keeps) :
    (recipe kind).applyFields (plan.set (recipe kind).elements (.array elements')) =
      (recipe kind).applyFields plan := by
  have hsome : ∃ items, ((recipe kind).declared plan).1 = some items := by
    rw [Recipe.declared_fst, helements]
    exact ⟨_, rfl⟩
  obtain ⟨items, hitems⟩ := hsome
  rw [Recipe.applyFields_eq, Recipe.applyFields_eq, declared_set_elements kind helements hkept,
    Fields.items?_set_of_ne (elements_ne_links kind), hitems]
  show Recipe.replaceItems _ _ ((plan.set _ _).set _ _) = Recipe.replaceItems _ _ (plan.set _ _)
  rw [Fields.set_set]

/-- **Links that are dropped leave no trace in the repaired plan.** -/
theorem applyFields_set_links (kind : Kind) {links links' : List Json}
    (hlinks : plan.items? (recipe kind).links = some links)
    (hrewired : links'.filterMap (rewired? kind (.object plan)) =
      links.filterMap (rewired? kind (.object plan))) :
    (recipe kind).applyFields (plan.set (recipe kind).links (.array links')) =
      (recipe kind).applyFields plan := by
  have hne : (recipe kind).links ≠ (recipe kind).elements := (elements_ne_links kind).symm
  have hdeclared : (recipe kind).declared (plan.set (recipe kind).links (.array links')) =
      (recipe kind).declared plan := by
    rw [Recipe.declared, Recipe.declared, Fields.items?_set_of_ne hne]
  rw [Recipe.applyFields_eq, Recipe.applyFields_eq, hdeclared, rewire?_declared,
    Fields.items?_set_self, hlinks, Option.map_some, Option.map_some, hrewired]
  cases ((recipe kind).declared plan).1 with
  | none => exact Fields.set_set _ _ _ plan
  | some items =>
      show ((plan.set _ _).set _ _).set _ _ = (plan.set _ _).set _ _
      rw [Fields.set_comm_of_get? hne (Fields.get?_of_items? hlinks), Fields.set_set]

/-- The links mean the same elements when elements are inserted that are dropped. -/
theorem rewired?_set_elements (kind : Kind) {elements elements' : List Json}
    (helements : plan.items? (recipe kind).elements = some elements)
    (hkept : elements'.filter (recipe kind).keeps = elements.filter (recipe kind).keeps) :
    rewired? kind (.object (plan.set (recipe kind).elements (.array elements'))) =
      rewired? kind (.object plan) := by
  rw [← rewire?_declared, ← rewire?_declared, declared_set_elements kind helements hkept]

/-! ### Both collections -/

/-- Dangling entries are not seen by the repair. -/
theorem repair_of_inserted_links {links links' : List Json}
    (hlinks : plan.items? (recipe kind).links = some links)
    (hinserted : Inserted (Dangling kind (.object plan)) links links') :
    (Json.object (plan.set (recipe kind).links (.array links'))).repair kind =
      (Json.object plan).repair kind :=
  congrArg Json.object <| applyFields_set_links kind hlinks <|
    hinserted.filterMap_eq fun _ h => rewired?_eq_none_iff.2 h

/-- Unusable nodes and dangling edges are not seen by the repair. -/
theorem repair_of_inserted_nodes {nodes nodes' edges edges' : List Json}
    (hnodes : plan.items? "nodes" = some nodes) (hedges : plan.items? "edges" = some edges)
    (hinserted : Inserted Unusable nodes nodes')
    (hinserted' : Inserted (Dangling .flowchart (.object plan)) edges edges') :
    (Json.object ((plan.set "nodes" (.array nodes')).set "edges" (.array edges'))).repair
        .flowchart = (Json.object plan).repair .flowchart := by
  have hkept : nodes'.filter (recipe .flowchart).keeps = nodes.filter (recipe .flowchart).keeps :=
    hinserted.filter_eq fun _ h => isUsableNode_eq_false_iff.2 h
  have hedges' : (plan.set "nodes" (.array nodes')).items? "edges" = some edges :=
    (Fields.items?_set_of_ne (by decide)).trans hedges
  -- the edges are resolved against the nodes with the insertions, which mean the same
  have hrewired := rewired?_set_elements .flowchart hnodes hkept
  have hdrop : ∀ edge, Dangling .flowchart (.object plan) edge →
      rewired? .flowchart (.object (plan.set "nodes" (.array nodes'))) edge = none := by
    intro edge hedge
    exact (congrFun hrewired edge).trans (rewired?_eq_none_iff.2 hedge)
  calc (Json.object ((plan.set "nodes" (.array nodes')).set "edges" (.array edges'))).repair
        .flowchart
      = (Json.object (plan.set "nodes" (.array nodes'))).repair .flowchart :=
        congrArg Json.object <|
          applyFields_set_links .flowchart hedges' (hinserted'.filterMap_eq hdrop)
    _ = (Json.object plan).repair .flowchart :=
        congrArg Json.object (applyFields_set_elements .flowchart hnodes hkept)

/-- **Junk does not interfere.**  Into the nodes of a flowchart any items can be inserted that are
no nodes, and into its edges any entries that are no edges of the plan, at any positions; and into
the links of a plan of any kind any entries that are no links of it.  The diagram, or the defect
with its path, is exactly the same. -/
theorem diagram_of_inserted :
    (∀ (plan : Fields) (nodes nodes' edges edges' : List Json),
      plan.items? "nodes" = some nodes → plan.items? "edges" = some edges →
      Inserted Unusable nodes nodes' →
      Inserted (Dangling .flowchart (.object plan)) edges edges' →
        Json.diagram .flowchart
            (.object ((plan.set "nodes" (.array nodes')).set "edges" (.array edges'))) =
          Json.diagram .flowchart (.object plan)) ∧
      ∀ (kind : Kind) (plan : Fields) (links links' : List Json),
        plan.items? (recipe kind).links = some links →
        Inserted (Dangling kind (.object plan)) links links' →
          Json.diagram kind (.object (plan.set (recipe kind).links (.array links'))) =
            Json.diagram kind (.object plan) := by
  constructor
  · intro plan nodes nodes' edges edges' hnodes hedges hinserted hinserted'
    rw [Json.diagram, repair_of_inserted_nodes hnodes hedges hinserted hinserted', ← Json.diagram]
  · intro kind plan links links' hlinks hinserted
    rw [Json.diagram, repair_of_inserted_links hlinks hinserted, ← Json.diagram]

/-- A flowchart of one node, which keeps no letter, and an edge from it to itself. -/
def spare : Fields :=
  [("nodes", .array [.object [("id", .string "?"), ("type", .string "start")]]),
    ("edges", .array [.object [("from", .string "?"), ("to", .string "?")]])]

/-- A sequence of one step, which has an unknown type. -/
def mumbled : Fields :=
  [("participants", .array [.object [("alias", .string "a")]]),
    ("steps", .array [.object [("from", .string "a"), ("to", .string "a"), ("label", .string "hm"),
      ("type", .string "hum")]])]

/-- `diagram_of_inserted` at work: no node in front of the only one takes the number `0` or the
name `?`, and no entry in front of the only step takes the position `0`. -/
theorem diagram_of_inserted_littered :
    Json.diagram .flowchart (.object
        [("nodes", .array
          [.null, .object [("id", .string "!"), ("type", .string "hexagon")],
            .object [("id", .string "?"), ("type", .string "start")],
            .object [("id", .string "?")]]),
          ("edges", .array
            [.object [("from", .string "?"), ("to", .string "?")],
              .object [("from", .string "!"), ("to", .string "?")]])]) =
        .ok (Flowchart.document ⟨[⟨"node_0", "?", .startEnd⟩], [⟨"node_0", "node_0", none⟩]⟩).text ∧
      Json.diagram .sequence (.object
        [("participants", .array [.object [("alias", .string "a")]]),
          ("steps", .array
            [.string "a", .object [("from", .string "a"), ("to", .string "b")],
              .object [("from", .string "a"), ("to", .string "a"), ("label", .string "hm"),
                ("type", .string "hum")]])]) =
        .error (.unknownWord [⟨"steps", 0⟩] "type" "hum" (Vocabulary.expected StepKind)) := by
  obtain ⟨hnodes, hlinks⟩ := diagram_of_inserted
  constructor
  · refine (hnodes spare _ _ _ _ rfl rfl
      (.insert ?_ (.insert ?_ (.keep (.insert ?_ .nil)))) (.keep (.insert ?_ .nil))).trans ?_
    all_goals decide +kernel
  · refine (hlinks .sequence mumbled _ _ rfl
      (.insert ?_ (.insert ?_ (.keep .nil)))).trans ?_
    all_goals decide +kernel

end Repair
end CodeDiagram
