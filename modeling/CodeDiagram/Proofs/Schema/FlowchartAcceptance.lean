/-
# Which candidate plans become a flowchart

No node can spoil a flowchart: a repaired node has a name, a label and a known
type, so it passes its check (`node_of_repaired`), and a repaired edge joins
names that the schema knows, so it can only fail for its label
(`edge_of_linked`).  A rewired edge has the label that it had before.  What is
wrong with a flowchart can therefore be read off the candidate plan
(`flowchartDefect?`), without repairing it: the missing array, or else the first
of the surviving edges whose label is neither absent, null nor a string.
-/

import CodeDiagram.Pipeline
import CodeDiagram.Proofs.Schema.SafeNames

namespace CodeDiagram

open Json (Fields)
open Repair (recipe rewired? repairedElements repairedLinks survivingLinks)

namespace Schema

variable {plan : Json}

/-! ### Nodes -/

/-- **A repaired node passes.** -/
theorem node_of_repaired {item : Json} (h : item ∈ repairedElements .flowchart plan) :
    ∃ fields, item = .object fields ∧ ∀ path, ∃ n, node ⟨path, fields⟩ = .ok n := by
  have hkeeps : Repair.isUsableNode item = true := Repair.keeps_of_mem_repairedElements h
  cases item with
  | object element =>
      rw [Repair.isUsableNode_object, Bool.and_eq_true] at hkeeps
      obtain ⟨id, hid⟩ := Option.isSome_iff_exists.1 hkeeps.1
      obtain ⟨kind, hkind⟩ := Option.isSome_iff_exists.1 hkeeps.2
      have hsettled := Repair.settled_of_mem_repairedElements h
      have hvalid := (hsettled.admits id hid).valid
      obtain ⟨label, hlabel, -⟩ :=
        (Option.any_eq_true _ _).1 (hsettled.labelled id hid "label" rfl)
      -- mending the type again changes nothing, so it is spelled canonically
      have htype := Repair.text?_canonicalWord hkind
      rw [show Repair.canonicalWord NodeKind "type" element = element from hsettled.tidy] at htype
      have hnode : Describes.Node element ⟨id, label, kind⟩ :=
        ⟨⟨hid, isValid_iff_isName.1 hvalid⟩, hlabel, htype⟩
      exact ⟨element, rfl, fun path => ⟨_, node_eq_ok_iff.2 hnode⟩⟩
  | _ => cases hkeeps

/-- **The nodes of a repaired plan pass.** -/
theorem checkAll_node_of_repaired (plan : Json) :
    ∃ nodes, checkAll [] "nodes" node (repairedElements .flowchart plan) = .ok nodes := by
  have hraises : Raises (fun _ => False)
      (checkAll [] "nodes" node (repairedElements .flowchart plan)) := by
    refine .checkAll fun index item hitem => ?_
    obtain ⟨fields, rfl, hnode⟩ := node_of_repaired (List.mem_of_getElem? hitem)
    obtain ⟨n, hn⟩ := hnode ([] ++ [⟨"nodes", index⟩])
    exact .of_eq_ok hn
  cases hnodes : checkAll [] "nodes" node (repairedElements .flowchart plan) with
  | ok nodes => exact ⟨nodes, rfl⟩
  | error defect => exact (hraises defect hnodes).elim

/-! ### Edges -/

/-- The label of a link is absent, null or a string. -/
def hasFittingLabel : Json → Bool
  | .object link => Element.isOptionalString "label" link
  | _ => false

/-- An edge between known nodes can only fail for its label. -/
theorem edge_of_linked {known : List String} {link : Fields} (h : Linked known link) (path : Path) :
    ∃ source target, edge known ⟨path, link⟩ =
      ((Element.mk path link).optionalString "label").map fun label =>
        ⟨source, target, label⟩ := by
  obtain ⟨source, hsource⟩ := h.source
  obtain ⟨target, htarget⟩ := h.target
  refine ⟨source, target, ?_⟩
  rw [edge, Element.reference_eq_ok_iff.2 hsource, Element.reference_eq_ok_iff.2 htarget]
  cases (Element.mk path link).optionalString "label" <;> rfl

theorem edge_passes {known : List String} {link : Fields} (h : Linked known link)
    (hlabel : Element.isOptionalString "label" link = true) (path : Path) :
    ∃ e, edge known ⟨path, link⟩ = .ok e := by
  obtain ⟨source, target, hedge⟩ := edge_of_linked h path
  obtain ⟨label, hlabel⟩ := Element.optionalString_of_isOptionalString (e := ⟨path, link⟩) hlabel
  exact ⟨_, hedge.trans (congrArg _ hlabel)⟩

theorem edge_fails {known : List String} {link : Fields} (h : Linked known link)
    (hlabel : Element.isOptionalString "label" link = false) (path : Path) :
    edge known ⟨path, link⟩ = .error (.invalidOptional path "label") := by
  obtain ⟨source, target, hedge⟩ := edge_of_linked h path
  have hlabel := Element.optionalString_of_not_isOptionalString (e := ⟨path, link⟩) hlabel
  exact hedge.trans (congrArg _ hlabel)

/-- A rewired edge keeps its label. -/
theorem hasFittingLabel_of_rewired? {link link' : Json}
    (h : rewired? .flowchart plan link = some link') :
    hasFittingLabel link' = hasFittingLabel link := by
  obtain ⟨fields, source, target, rfl, rfl, -, -⟩ := Repair.exists_of_rewired? h
  have hlabel : "label" ∉ "from" :: "to" :: Repair.tidiedOfLink .flowchart := by decide
  have hget := Repair.get?_rewired source target hlabel fields
  rw [hasFittingLabel, hasFittingLabel, Element.isOptionalString, Element.isOptionalString, hget]

/-- **The first edge with a bad label is blamed**, counted among the surviving ones. -/
theorem checkAll_edge_eq_error_iff {known : List String} {defect : Defect}
    (hknown : (repairedElements .flowchart plan).filterMap (recipe .flowchart).nameOf? = known) :
    checkAll [] "edges" (edge known) (repairedLinks .flowchart plan) = .error defect ↔
      ((survivingLinks .flowchart plan).findIdx? fun link => !hasFittingLabel link).map
        (fun index => .invalidOptional [⟨"edges", index⟩] "label") = some defect := by
  have hlinked : ∀ item ∈ repairedLinks .flowchart plan, ∃ link, item = .object link ∧
      Linked known link := by
    intro item hitem
    rw [← hknown]
    exact linked_of_mem_repairedLinks hitem
  have hlabels : (repairedLinks .flowchart plan).map hasFittingLabel =
      (survivingLinks .flowchart plan).map hasFittingLabel :=
    Repair.map_repairedLinks fun _ _ h => hasFittingLabel_of_rewired? h
  have hfirst : ((repairedLinks .flowchart plan).findIdx? fun link => !hasFittingLabel link) =
      (survivingLinks .flowchart plan).findIdx? fun link => !hasFittingLabel link :=
    calc (repairedLinks .flowchart plan).findIdx? ((!·) ∘ hasFittingLabel)
      _ = ((repairedLinks .flowchart plan).map hasFittingLabel).findIdx? (!·) :=
          List.findIdx?_map.symm
      _ = ((survivingLinks .flowchart plan).map hasFittingLabel).findIdx? (!·) := by rw [hlabels]
      _ = _ := List.findIdx?_map
  rw [← hfirst]
  refine checkAll_eq_error_iff (fun item hitem index hfits => ?_) fun item hitem index hfits => ?_
  · obtain ⟨link, rfl, hlinked⟩ := hlinked item hitem
    exact edge_passes hlinked hfits _
  · obtain ⟨link, rfl, hlinked⟩ := hlinked item hitem
    exact edge_fails hlinked hfits _

/-! ### Flowcharts -/

/-- What keeps a candidate plan from becoming a flowchart. -/
def flowchartDefect? (plan : Json) : Option Defect :=
  if plan.fields?.isNone then some .notAnObject
  else if (plan.collection? "nodes").isNone then some (.missingArray "nodes")
  else if (plan.collection? "edges").isNone then some (.missingArray "edges")
  else
    ((survivingLinks .flowchart plan).findIdx? fun link => !hasFittingLabel link).map fun index =>
      .invalidOptional [⟨"edges", index⟩] "label"

theorem flowchart_repair_eq_error_iff {defect : Defect} :
    flowchart (plan.repair .flowchart) = .error defect ↔ flowchartDefect? plan = some defect := by
  rw [flowchart_eq_checkPlan, flowchartDefect?]
  split_ifs with hobject hnodes hedges
  · rw [Option.isNone_iff_eq_none, ← Repair.fields?_repair_eq_none_iff .flowchart] at hobject
    exact eq_error_iff (checkPlan_of_error (collections_of_no_object hobject))
  · rw [Option.isNone_iff_eq_none, ← Repair.fields?_repair_eq_none_iff .flowchart] at hobject
    rw [Option.isNone_iff_eq_none] at hnodes
    exact eq_error_iff (checkPlan_of_error (collections_of_no_elements hobject
      ((Repair.collection?_elements_repair_eq_none_iff .flowchart).2 hnodes)))
  · rw [Option.isNone_iff_eq_none] at hnodes hedges
    exact eq_error_iff (checkPlan_of_error (collections_of_no_links
      (mt (Repair.collection?_elements_repair_eq_none_iff .flowchart).1 hnodes)
      ((Repair.collection?_links_repair_eq_none_iff .flowchart).2 hedges)))
  · rw [Option.isNone_iff_eq_none] at hnodes hedges
    obtain ⟨items, hitems⟩ := Option.ne_none_iff_exists'.1
      (mt (Repair.collection?_elements_repair_eq_none_iff .flowchart).1 hnodes)
    obtain ⟨links, hlinks⟩ := Option.ne_none_iff_exists'.1
      (mt (Repair.collection?_links_repair_eq_none_iff .flowchart).1 hedges)
    have hcollections := collections_eq_ok_iff.2 ⟨hitems, hlinks⟩
    rw [Repair.eq_repairedElements hitems, Repair.eq_repairedLinks hlinks] at hcollections
    obtain ⟨nodes, hnodes⟩ := checkAll_node_of_repaired plan
    refine (checkPlan_eq_error_iff hcollections hnodes).trans (checkAll_edge_eq_error_iff ?_)
    exact known_of_checkAll .flowchart (fun _ _ _ h => (node_eq_ok_iff.1 h).id.text) hnodes

/-- Nothing keeps an object with both arrays from becoming a flowchart, if the labels of the
surviving edges fit. -/
theorem flowchartDefect?_eq_none_iff : flowchartDefect? plan = none ↔
    ∃ fields nodes edges, plan = .object fields ∧ Fields.items? "nodes" fields = some nodes ∧
      Fields.items? "edges" fields = some edges ∧
      ∀ link ∈ survivingLinks .flowchart plan, hasFittingLabel link = true := by
  rw [flowchartDefect?]
  constructor
  · intro h
    split_ifs at h with hobject hnodes hedges
    rw [Option.map_eq_none_iff, List.findIdx?_eq_none_iff] at h
    cases plan with
    | object fields =>
        rw [Option.isNone_iff_eq_none] at hnodes hedges
        obtain ⟨nodes, hnodes⟩ := Option.ne_none_iff_exists'.1 hnodes
        obtain ⟨edges, hedges⟩ := Option.ne_none_iff_exists'.1 hedges
        refine ⟨fields, nodes, edges, rfl, hnodes, hedges, fun link hlink => ?_⟩
        rw [← Bool.not_eq_false']
        exact h link hlink
    | _ => exact absurd rfl hobject
  · rintro ⟨fields, nodes, edges, rfl, hnodes, hedges, hlabels⟩
    have hobject : (Json.object fields).fields? = some fields := rfl
    have hnodes : (Json.object fields).collection? "nodes" = some nodes := hnodes
    have hedges : (Json.object fields).collection? "edges" = some edges := hedges
    simp only [hobject, hnodes, hedges, Option.isNone_some, Bool.false_eq_true, if_false,
      Option.map_eq_none_iff, List.findIdx?_eq_none_iff]
    intro link hlink
    rw [hlabels link hlink, Bool.not_true]

theorem diagram_flowchart_eq_error_iff {defect : Defect} :
    plan.diagram .flowchart = .error defect ↔ flowchartDefect? plan = some defect := by
  rw [Json.diagram, map_eq_error_iff, Plan.ofJson, map_eq_error_iff, flowchart_repair_eq_error_iff]

/-- **A candidate plan becomes a flowchart exactly when it is an object with both arrays and no
surviving edge has a bad label**, whatever its nodes are.  Otherwise it is turned down for the first
of these that it misses, and for the first edge with a bad label, counted among the surviving
ones. -/
theorem diagram_flowchart (plan : Json) :
    ((∃ text, plan.diagram .flowchart = .ok text) ↔
      ∃ fields nodes edges, plan = .object fields ∧ Fields.items? "nodes" fields = some nodes ∧
        Fields.items? "edges" fields = some edges ∧
        ∀ link ∈ survivingLinks .flowchart plan, hasFittingLabel link = true) ∧
      ∀ defect, plan.diagram .flowchart = .error defect ↔ flowchartDefect? plan = some defect := by
  refine ⟨?_, fun defect => diagram_flowchart_eq_error_iff⟩
  rw [← flowchartDefect?_eq_none_iff]
  cases hdiagram : plan.diagram .flowchart with
  | ok text =>
      refine ⟨fun _ => Option.eq_none_iff_forall_ne_some.2 fun defect hdefect => ?_,
        fun _ => ⟨text, rfl⟩⟩
      rw [diagram_flowchart_eq_error_iff.2 hdefect] at hdiagram
      cases hdiagram
  | error defect =>
      rw [diagram_flowchart_eq_error_iff.1 hdiagram]
      exact ⟨fun ⟨_, h⟩ => (nomatch h), fun h => (nomatch h)⟩

/-- A flowchart with few good nodes, and with a dangling edge before the one that has a bad
label. -/
def spoilt : Json :=
  .object
    [("nodes", .array
      [.null, .object [("id", .string "a b"), ("type", .string "Process")], .string "node",
        .object [("id", .string "")], .object [("id", .string "end"), ("type", .string "io")]]),
      ("edges", .array
        [.object [("from", .string "a b"), ("to", .string "end"), ("label", .null)],
          .object [("from", .string "a b"), ("to", .string "nowhere"), ("label", .array [])],
          .object [("from", .string "end"), ("to", .string "ab"), ("label", .array [])]])]

/-- `diagram_flowchart` at work: the dangling edge is not counted. -/
theorem diagram_flowchart_spoilt :
    spoilt.diagram .flowchart = .error (.invalidOptional [⟨"edges", 1⟩] "label") := by
  have hdefect : flowchartDefect? spoilt = some (.invalidOptional [⟨"edges", 1⟩] "label") := by
    decide +kernel
  exact ((diagram_flowchart spoilt).2 _).2 hdefect

end Schema
end CodeDiagram
