/-
# Reading a flowchart back

A flowchart shows a node by its identifier, its kind and its quoted label, and
an edge by its ends and its label, if that is not blank.  Two flowcharts with
nodes have the same document exactly when they show the same
(`text_eq_iff_shown_eq`): a line is read from the left,

| part | ends before |
| --- | --- |
| identifier | the first character that is no letter |
| bracket, and so the kind | the first double quote |
| label | the second double quote |

and the lines of the edges begin where an identifier is first followed by a
space (`isLink`).
-/

import CodeDiagram.Proofs.Document.Reading

namespace CodeDiagram
namespace Flowchart

open Identifier (isLetter isValid isValid_iff)
open Label
open Text (ends_append)

/-- What a document shows of a node. -/
def Node.shown (node : Node) : String × NodeKind × String :=
  (node.id, node.kind, quoted node.label)

/-- What a document shows of an edge. -/
def Edge.shown (edge : Edge) : String × String × Option String :=
  (edge.source, edge.target, shown? edge.label)

/-! ### Nodes -/

/-- A bracket can be told from a letter. -/
theorem ends_bracket (kind : NodeKind) (t : String) :
    Span.Ends isLetter ((brackets kind).1 ++ t).toList := by
  cases kind <;> exact ends_append (by decide)

/-- **The bracket says which kind the node is of.** -/
theorem bracket_inj {kind kind' : NodeKind} :
    (brackets kind).1 = (brackets kind').1 ↔ kind = kind' := by
  cases kind <;> cases kind' <;> decide

/-- What follows the label of a node. -/
def closing (kind : NodeKind) : String :=
  (brackets kind).2 ++ ":::" ++ Vocabulary.spelling kind

theorem Node.line_eq (node : Node) :
    node.line = node.id ++ ((brackets node.kind).1 ++
      (inQuotes (quoted node.label) ++ closing node.kind)) := by
  simp only [Node.line, closing, String.append_assoc]

/-- **Nodes with the same line show the same.** -/
theorem Node.line_eq_line_iff {node node' : Node} (hid : isValid node.id = true)
    (hid' : isValid node'.id = true) : node.line = node'.line ↔ node.shown = node'.shown := by
  rw [Node.line_eq, Node.line_eq, name_append_inj hid hid' (ends_bracket _ _) (ends_bracket _ _),
    append_inQuotes_inj (plain_brackets _).1.quote_not_mem (plain_brackets _).1.quote_not_mem,
    bracket_inj, inQuotes_append_inj (plain_quoted _).quote_not_mem (plain_quoted _).quote_not_mem,
    Node.shown, Node.shown, Prod.mk.injEq, Prod.mk.injEq]
  constructor
  · rintro ⟨hids, hkinds, hlabels, -⟩
    exact ⟨hids, hkinds, hlabels⟩
  · rintro ⟨hids, hkinds, hlabels⟩
    exact ⟨hids, hkinds, hlabels, congrArg closing hkinds⟩

/-! ### Edges -/

/-- What stands between the ends of an edge with this label. -/
def link : Option String → String
  | some label => " -- " ++ inQuotes label ++ " --> "
  | none => " --> "

theorem Edge.line_eq (edge : Edge) :
    edge.line = edge.source ++ (link (shown? edge.label) ++ edge.target) := by
  rw [Edge.line]
  cases shown? edge.label <;> simp only [link, String.append_assoc]

/-- The arrow of an edge can be told from a letter. -/
theorem ends_link (label : Option String) (t : String) :
    Span.Ends isLetter (link label ++ t).toList := by
  cases label with
  | none => exact ends_append (by decide)
  | some label =>
      rw [link, String.append_assoc, String.append_assoc]
      exact ends_append (by decide)

/-- The fourth character says whether a label follows. -/
theorem link_some_append_ne (label t t' : String) : link (some label) ++ t ≠ link none ++ t' := by
  intro h
  have hfourth := congrArg (fun text : String => text.toList[3]?) h
  simp [link] at hfourth

/-- **What stands between the ends of an edge is read back.** -/
theorem link_append_inj {label label' : Option String} {t t' : String}
    (h : ∀ s ∈ label, Text.Plain s) (h' : ∀ s ∈ label', Text.Plain s) :
    link label ++ t = link label' ++ t' ↔ label = label' ∧ t = t' := by
  cases label with
  | none =>
      cases label' with
      | none => simp only [String.append_right_inj, true_and]
      | some s' => simp only [(link_some_append_ne s' t' t).symm, reduceCtorEq, false_and]
  | some s =>
      cases label' with
      | none => simp only [link_some_append_ne s t t', reduceCtorEq, false_and]
      | some s' =>
          simp only [link, String.append_assoc, String.append_right_inj, Option.some_inj]
          rw [inQuotes_append_inj (h s rfl).quote_not_mem (h' s' rfl).quote_not_mem,
            String.append_right_inj]

/-- **Edges with the same line show the same.** -/
theorem Edge.line_eq_line_iff {edge edge' : Edge} (hsource : isValid edge.source = true)
    (hsource' : isValid edge'.source = true) :
    edge.line = edge'.line ↔ edge.shown = edge'.shown := by
  rw [Edge.line_eq, Edge.line_eq,
    name_append_inj hsource hsource' (ends_link _ _) (ends_link _ _),
    link_append_inj (fun _ => plain_of_shown?) fun _ => plain_of_shown?, Edge.shown, Edge.shown,
    Prod.mk.injEq, Prod.mk.injEq, and_comm (a := shown? edge.label = _)]

/-! ### Documents -/

/-- A space is the first character of the line that is no letter. -/
def isLink (line : String) : Bool := (line.toList.dropWhile isLetter).head? == some ' '

theorem isLink_append {id t : String} (hid : isValid id = true)
    (ht : Span.Ends isLetter t.toList) : isLink (id ++ t) = (t.toList.head? == some ' ') := by
  rw [isLink, String.toList_append, Span.dropWhile_append (isValid_iff.1 hid).2 ht]

/-- **No line of a node passes for the line of an edge.** -/
theorem isLink_node {node : Node} (hid : isValid node.id = true) : isLink node.line = false := by
  rw [Node.line_eq, isLink_append hid (ends_bracket _ _), String.toList_append]
  cases node.kind <;> rfl

/-- **No line of an edge passes for the line of a node.** -/
theorem isLink_edge {edge : Edge} (hsource : isValid edge.source = true) :
    isLink edge.line = true := by
  rw [Edge.line_eq, isLink_append hsource (ends_link _ _), String.toList_append]
  cases shown? edge.label with
  | none => rfl
  | some label =>
      rw [link, String.append_assoc, String.toList_append]
      rfl

/-- The texts below the declaration of a flowchart with nodes. -/
def texts (plan : Flowchart) : List String :=
  styles ++ (plan.nodes.map Node.line ++ plan.edges.map Edge.line)

theorem document_eq {plan : Flowchart} (h : plan.nodes ≠ []) :
    plan.document = ⟨.flowchart, plan.texts.map .line⟩ := by
  rw [document, body_of_nodes h, texts]
  simp only [List.map_append, List.map_map]
  rfl

/-- **The lines of the nodes end where those of the edges begin.** -/
theorem texts_eq_texts_iff {plan plan' : Flowchart}
    (hnodes : ∀ node ∈ plan.nodes, isValid node.id = true)
    (hnodes' : ∀ node ∈ plan'.nodes, isValid node.id = true)
    (hedges : ∀ edge ∈ plan.edges, isValid edge.source = true)
    (hedges' : ∀ edge ∈ plan'.edges, isValid edge.source = true) :
    plan.texts = plan'.texts ↔
      plan.nodes.map Node.line = plan'.nodes.map Node.line ∧
        plan.edges.map Edge.line = plan'.edges.map Edge.line := by
  rw [texts, texts, List.append_cancel_left_eq]
  exact Document.map_append_map_eq_iff isLink (fun node h => isLink_node (hnodes node h))
    (fun node h => isLink_node (hnodes' node h)) (fun edge h => isLink_edge (hedges edge h))
    fun edge h => isLink_edge (hedges' edge h)

/-- **Flowcharts have the same document exactly when they show the same.**  Of two plans that have
passed the schema and have nodes, the documents have the same text just when the plans have, in the
same order, nodes with the same identifiers, kinds and quoted labels, and edges with the same ends
and labels, where a blank label counts as none and others are compared as they are quoted. -/
theorem text_eq_iff_shown_eq {json json' : Json} {plan plan' : Flowchart}
    (h : Plan.ofJson .flowchart json = .ok (.flowchart plan))
    (h' : Plan.ofJson .flowchart json' = .ok (.flowchart plan'))
    (hne : plan.nodes ≠ []) (hne' : plan'.nodes ≠ []) :
    plan.document.text = plan'.document.text ↔
      plan.nodes.map Node.shown = plan'.nodes.map Node.shown ∧
        plan.edges.map Edge.shown = plan'.edges.map Edge.shown := by
  have hnames := Schema.isValid_of_mem_names h
  have hnames' := Schema.isValid_of_mem_names h'
  obtain ⟨hids, hends⟩ := Schema.forall_names_iff.1 hnames
  obtain ⟨hids', hends'⟩ := Schema.forall_names_iff.1 hnames'
  -- no line holds a line feed, so equal texts have equal lines
  have hlines : plan.document.text = plan'.document.text ↔ plan.texts = plan'.texts := by
    have htext := Document.text_eq_text_iff hnames hnames'
    rwa [Plan.document, Plan.document, document_eq hne, document_eq hne',
      Document.lines_eq_lines_iff, ← document_eq hne, ← document_eq hne'] at htext
  have hnodes : plan.nodes.map Node.line = plan'.nodes.map Node.line ↔
      plan.nodes.map Node.shown = plan'.nodes.map Node.shown :=
    Document.map_eq_map_iff_of_forall fun node hnode node' hnode' =>
      Node.line_eq_line_iff (hids node hnode) (hids' node' hnode')
  have hedges : plan.edges.map Edge.line = plan'.edges.map Edge.line ↔
      plan.edges.map Edge.shown = plan'.edges.map Edge.shown :=
    Document.map_eq_map_iff_of_forall fun edge hedge edge' hedge' =>
      Edge.line_eq_line_iff (hends edge hedge).1 (hends' edge' hedge').1
  rw [hlines, texts_eq_texts_iff hids hids' (fun edge h => (hends edge h).1)
    fun edge h => (hends' edge h).1, hnodes, hedges]

/-- A flowchart with one node and one edge. -/
def loop (label : String) (text : Option String) : Json :=
  .object
    [("nodes", .array
      [.object [("id", .string "A"), ("label", .string label), ("type", .string "process")]]),
      ("edges", .array
        [.object [("from", .string "A"), ("to", .string "A"),
          ("label", text.elim .null .string)]])]

/-- The typed plan of `loop`. -/
def loopPlan (label : String) (text : Option String) : Flowchart where
  nodes := [⟨"A", label, .process⟩]
  edges := [⟨"A", "A", text⟩]

/-- `text_eq_iff_shown_eq` at work: blanks make no difference, and a label that spells an edge
does. -/
theorem text_eq_iff_shown_eq_loop :
    (loopPlan "one \"A\"" none).document.text =
        (loopPlan " one\n\"A\"" (some " ")).document.text ∧
      (loopPlan "one" (some "B\" --> A")).document.text ≠
        (loopPlan "one" (some "B")).document.text := by
  have hplain : Plan.ofJson .flowchart (loop "one \"A\"" none) =
      .ok (.flowchart (loopPlan "one \"A\"" none)) := by decide +kernel
  have hblank : Plan.ofJson .flowchart (loop " one\n\"A\"" (some " ")) =
      .ok (.flowchart (loopPlan " one\n\"A\"" (some " "))) := by decide +kernel
  have hedge : Plan.ofJson .flowchart (loop "one" (some "B\" --> A")) =
      .ok (.flowchart (loopPlan "one" (some "B\" --> A"))) := by decide +kernel
  have hname : Plan.ofJson .flowchart (loop "one" (some "B")) =
      .ok (.flowchart (loopPlan "one" (some "B"))) := by decide +kernel
  constructor
  · exact (text_eq_iff_shown_eq hplain hblank (by decide) (by decide)).2 (by decide +kernel)
  · exact mt (text_eq_iff_shown_eq hedge hname (by decide) (by decide)).1 (by decide +kernel)

end Flowchart
end CodeDiagram
