/-
# The lines of a document

Where the names of a plan are identifiers, a line of its document is one of
three things (`line_of_mem_lines`):

| line | double quotes | stands in |
| --- | --- | --- |
| plain text | none | all documents |
| plain text around a quoted text | the two around that text | flowcharts, entity relations |
| the text of a class member | those of the member | class diagrams |

No line holds a line feed, so the lines of a document can be read back from
its text (`splitLines_text`).
-/

import CodeDiagram.Document.Compile
import CodeDiagram.Proofs.Document.Label
import CodeDiagram.Proofs.Schema.Names

namespace CodeDiagram

open Identifier (isValid)
open Label
open Text (OneLine Plain isBlank plain_append plain_of_isValid splitLines)

/-! ### What a plan with elements shows -/

/-- A flowchart with nodes lists them, and then its edges. -/
theorem Flowchart.body_of_nodes {plan : Flowchart} (h : plan.nodes ≠ []) :
    plan.body = (plan.nodes.map fun node => .line node.line) ++
      (plan.edges.map fun edge => .line edge.line) :=
  if_neg (mt List.isEmpty_iff.1 h)

/-- A sequence with participants lists them, and then its steps. -/
theorem Sequence.body_of_participants {plan : Sequence} (h : plan.participants ≠ []) :
    plan.body = (plan.participants.map fun participant => .line participant.line) ++
      (plan.steps.map fun step => .line step.line) :=
  if_neg (mt List.isEmpty_iff.1 h)

/-- A diagram with classes lists them, and then their relationships. -/
theorem ClassDiagram.body_of_classes {plan : ClassDiagram} (h : plan.classes ≠ []) :
    plan.body = plan.classes.map ClassBox.item ++
      (plan.relationships.map fun link => .line link.line) :=
  if_neg (mt List.isEmpty_iff.1 h)

/-- A diagram with entities lists them, and then their relationships. -/
theorem EntityRelation.body_of_entities {plan : EntityRelation} (h : plan.entities ≠ []) :
    plan.body = plan.entities.map Entity.item ++
      (plan.relationships.map fun link => .line link.line) :=
  if_neg (mt List.isEmpty_iff.1 h)

/-! ### What the lines are made of -/

namespace Plan

/-- The texts that stand between double quotes in the document of a plan. -/
def quotedTexts : Plan → List String
  | .flowchart p =>
    if p.nodes.isEmpty then [Document.placeholder]
    else
      (p.nodes.map fun node => quoted node.label) ++
        p.edges.filterMap fun edge => shown? edge.label
  | .sequence _ => []
  | .classes p => if p.classes.isEmpty then [Document.placeholder] else []
  | .entityRelation p =>
    if p.entities.isEmpty then [Document.placeholder]
    else p.relationships.map fun link => quoted link.label

/-- The texts of the class members. -/
def memberTexts : Plan → List String
  | .classes p => p.classes.flatMap fun box => box.properties ++ box.methods
  | _ => []

end Plan

namespace Document

/-- A line of a document. -/
inductive Line (texts members : List String) (line : String) : Prop
  | plain (h : Plain line)
  | quoted (before text after : String) (htext : text ∈ texts)
      (hline : line = before ++ inQuotes text ++ after) (hbefore : Plain before)
      (hplain : Plain text) (hafter : Plain after)
  | member {text : String} (htext : text ∈ members) (hline : OneLine line)
      (hcount : line.toList.count '"' = text.toList.count '"')

namespace Line

variable {texts members : List String} {line : String}

/-- A line may be indented. -/
theorem indented (h : Line texts members line) : Line texts members (indent ++ line) := by
  cases h with
  | plain h => exact .plain (plain_append.2 ⟨by decide, h⟩)
  | quoted before text after htext hline hbefore hplain hafter =>
      refine .quoted (indent ++ before) text after htext ?_ (plain_append.2 ⟨?_, hbefore⟩)
        hplain hafter
      · rw [hline]
        simp only [String.append_assoc]
      · decide
  | member htext hline hcount =>
      refine .member htext (Text.oneLine_append.2 ⟨by decide, hline⟩) ?_
      rw [String.toList_append, List.count_append, hcount]
      exact Nat.zero_add _

/-- A line is one line, whatever it quotes. -/
theorem oneLine (h : Line texts members line) : OneLine line := by
  cases h with
  | plain h => exact h.oneLine
  | quoted before text after htext hline hbefore hplain hafter =>
      rw [hline, inQuotes]
      simp only [Text.oneLine_append]
      exact ⟨⟨hbefore.oneLine, ⟨by decide, hplain.oneLine⟩, by decide⟩, hafter.oneLine⟩
  | member htext hline hcount => exact hline

/-- The text that stands in a diagram that would be empty, between double quotes. -/
theorem of_placeholder (before after : String) (htext : placeholder ∈ texts)
    (hbefore : Plain before) (hafter : Plain after) :
    Line texts members (before ++ inQuotes placeholder ++ after) :=
  .quoted before placeholder after htext rfl hbefore (by decide) hafter

end Line
end Document

/-- The lines of an item before they are indented. -/
def Item.texts : Item → List String
  | .line text => [text]
  | .block header body => (header ++ " \x7b") :: body ++ ["\x7d"]

namespace Document

variable {texts members : List String}

theorem Line.of_mem_lines {item : Item} (h : ∀ text ∈ item.texts, Line texts members text) :
    ∀ line ∈ item.lines, Line texts members line := by
  intro line hline
  cases item with
  | line text =>
      rw [List.mem_singleton.1 hline]
      exact (h text (List.mem_singleton_self text)).indented
  | block header body =>
      rcases List.mem_append.1 hline with hline | hline
      · rcases List.mem_cons.1 hline with rfl | hline
        · rw [String.append_assoc]
          exact (h _ (List.mem_append_left _ (List.mem_cons_self ..))).indented
        · obtain ⟨text, htext, rfl⟩ := List.mem_map.1 hline
          rw [String.append_assoc]
          exact (h text (List.mem_append_left _ (List.mem_cons_of_mem _ htext))).indented.indented
      · rw [List.mem_singleton.1 hline]
        exact (h _ (List.mem_append_right _ (List.mem_singleton_self _))).indented

/-- The lines of a document are lines if the texts of its items are. -/
theorem Line.of_mem_document {d : Document}
    (h : ∀ item ∈ d.items, ∀ text ∈ item.texts, Line texts members text) :
    ∀ line ∈ d.lines, Line texts members line := by
  intro line hline
  rcases List.mem_cons.1 hline with rfl | hline
  · refine .plain ?_
    cases d.kind <;> decide
  · obtain ⟨item, hitem, hline⟩ := List.mem_flatMap.1 hline
    exact Line.of_mem_lines (h item hitem) line hline

/-- Items that are lines. -/
theorem Line.of_mem_map {α : Type} {as : List α} {line : α → String}
    (h : ∀ a ∈ as, Line texts members (line a)) :
    ∀ item ∈ as.map fun a => Item.line (line a), ∀ text ∈ item.texts, Line texts members text := by
  intro item hitem text htext
  obtain ⟨a, ha, rfl⟩ := List.mem_map.1 hitem
  rw [List.mem_singleton.1 htext]
  exact h a ha

end Document

open Document (Line)

variable {texts members : List String}

/-! ### Flowcharts -/

namespace Flowchart

/-- The brackets around a label are plain. -/
theorem plain_brackets (kind : NodeKind) : Plain (brackets kind).1 ∧ Plain (brackets kind).2 := by
  cases kind <;> decide

/-- The line of a node has its label between double quotes. -/
theorem line_node {node : Node} (hid : isValid node.id = true)
    (htext : quoted node.label ∈ texts) : Line texts members node.line := by
  have hbrackets := plain_brackets node.kind
  refine .quoted (node.id ++ (brackets node.kind).1) (quoted node.label)
    ((brackets node.kind).2 ++ ":::" ++ Vocabulary.spelling node.kind) htext ?_ ?_
    (plain_quoted _) ?_
  · simp only [Node.line, String.append_assoc]
  · exact plain_append.2 ⟨plain_of_isValid hid, hbrackets.1⟩
  · simp only [plain_append]
    refine ⟨⟨hbrackets.2, by decide⟩, ?_⟩
    cases node.kind <;> decide

/-- The line of an edge has its label between double quotes, if it shows one. -/
theorem line_edge {edge : Edge} (hends : isValid edge.source = true ∧ isValid edge.target = true)
    (htext : ∀ label ∈ shown? edge.label, label ∈ texts) : Line texts members edge.line := by
  have hsource := plain_of_isValid hends.1
  have htarget := plain_of_isValid hends.2
  rw [Edge.line]
  cases hlabel : shown? edge.label with
  | some label =>
      refine .quoted (edge.source ++ " -- ") label (" --> " ++ edge.target) (htext label hlabel) ?_
        (plain_append.2 ⟨hsource, by decide⟩) (plain_of_shown? hlabel)
        (plain_append.2 ⟨by decide, htarget⟩)
      simp only [String.append_assoc]
  | none => exact .plain (plain_append.2 ⟨plain_append.2 ⟨hsource, by decide⟩, htarget⟩)

theorem line_of_mem_items {plan : Flowchart}
    (hnames : ∀ s ∈ (Plan.flowchart plan).names, isValid s = true) :
    ∀ item ∈ plan.document.items, ∀ text ∈ item.texts,
      Line (Plan.flowchart plan).quotedTexts members text := by
  obtain ⟨hnodes, hedges⟩ := Schema.forall_names_iff.1 hnames
  rw [document, List.forall_mem_append]
  constructor
  · refine Line.of_mem_map fun style hstyle => .plain ?_
    revert style
    decide +kernel
  · rw [body, Plan.quotedTexts]
    split_ifs
    · rw [List.forall_mem_singleton, Item.texts, List.forall_mem_singleton]
      exact Line.of_placeholder "error[" "]" (List.mem_singleton_self _) (by decide) (by decide)
    · rw [List.forall_mem_append]
      constructor
      · refine Line.of_mem_map fun node hnode => line_node (hnodes node hnode) ?_
        exact List.mem_append_left _ (List.mem_map_of_mem hnode)
      · refine Line.of_mem_map fun edge hedge => line_edge (hedges edge hedge) fun _ hlabel => ?_
        exact List.mem_append_right _ (List.mem_filterMap.2 ⟨edge, hedge, hlabel⟩)

end Flowchart

/-! ### Sequences -/

namespace Sequence

/-- A participant is plain on its line, whatever its description. -/
theorem plain_participant {participant : Participant} (hid : isValid participant.id = true) :
    Plain participant.line := by
  have hid := plain_of_isValid hid
  simp only [Participant.line]
  split_ifs
  · exact plain_append.2 ⟨by decide, hid⟩
  · exact plain_append.2 ⟨plain_append.2 ⟨plain_append.2 ⟨by decide, hid⟩, by decide⟩,
      plain_statement _⟩

/-- A step is plain on its line, whatever its text. -/
theorem plain_step {step : Step}
    (hends : isValid step.source = true ∧ isValid step.target = true) : Plain step.line := by
  have harrow : Plain (arrow step.kind) := by cases step.kind <;> decide
  simp only [Step.line, plain_append]
  exact ⟨⟨⟨⟨plain_of_isValid hends.1, harrow⟩, plain_of_isValid hends.2⟩, by decide⟩,
    plain_statement _⟩

theorem line_of_mem_items {plan : Sequence}
    (hnames : ∀ s ∈ (Plan.sequence plan).names, isValid s = true) :
    ∀ item ∈ plan.document.items, ∀ text ∈ item.texts, Line texts members text := by
  obtain ⟨hparticipants, hsteps⟩ := Schema.forall_names_iff.1 hnames
  rw [document, body]
  split_ifs
  · rw [List.forall_mem_singleton, Item.texts, List.forall_mem_singleton]
    exact .plain (by decide)
  · rw [List.forall_mem_append]
    exact ⟨Line.of_mem_map fun participant h => .plain (plain_participant (hparticipants _ h)),
      Line.of_mem_map fun step h => .plain (plain_step (hsteps _ h))⟩

end Sequence

/-! ### Class diagrams -/

namespace ClassDiagram

/-- A line of a class body has the double quotes of a property or a method. -/
theorem line_of_mem_members {box : ClassBox}
    (htexts : ∀ text ∈ box.properties ++ box.methods, text ∈ members)
    {member : String} (hmember : member ∈ box.members) : Line texts members member := by
  rw [List.forall_mem_append] at htexts
  rcases List.mem_append.1 hmember with hmember | hmember
  · obtain ⟨text, htext, hshown⟩ := List.mem_filterMap.1 hmember
    exact .member (htexts.1 text htext) (oneLine_member? hshown) (count_quote_member? hshown)
  · obtain ⟨shown, hshown, rfl⟩ := List.mem_map.1 hmember
    obtain ⟨text, htext, hshown⟩ := List.mem_filterMap.1 hshown
    refine .member (htexts.2 text htext) (oneLine_withCall (oneLine_member? hshown)) ?_
    rw [count_quote_withCall, count_quote_member? hshown]

/-- A class is written on lines, with its members among them. -/
theorem line_box {box : ClassBox} (hid : isValid box.id = true)
    (htexts : ∀ text ∈ box.properties ++ box.methods, text ∈ members) :
    ∀ text ∈ box.item.texts, Line texts members text := by
  have hheader : Plain ("class " ++ box.id) := plain_append.2 ⟨by decide, plain_of_isValid hid⟩
  rw [ClassBox.item]
  split_ifs
  · rw [Item.texts, List.forall_mem_singleton]
    exact .plain hheader
  · rw [Item.texts, List.forall_mem_append, List.forall_mem_cons, List.forall_mem_singleton]
    exact ⟨⟨.plain (plain_append.2 ⟨hheader, by decide⟩), fun member h =>
      line_of_mem_members htexts h⟩, .plain (by decide)⟩

theorem plain_relationship {link : Relationship}
    (hends : isValid link.source = true ∧ isValid link.target = true) : Plain link.line := by
  have harrow : Plain (arrow link.kind) := by cases link.kind <;> decide
  simp only [Relationship.line, plain_append]
  refine ⟨⟨⟨⟨⟨plain_of_isValid hends.1, by decide⟩, harrow⟩, by decide⟩,
    plain_of_isValid hends.2⟩, ?_⟩
  cases hlabel : shown? link.label with
  | some label => exact plain_append.2 ⟨by decide, plain_of_shown? hlabel⟩
  | none => decide

theorem line_of_mem_items {plan : ClassDiagram}
    (hnames : ∀ s ∈ (Plan.classes plan).names, isValid s = true) :
    ∀ item ∈ plan.document.items, ∀ text ∈ item.texts,
      Line (Plan.classes plan).quotedTexts (Plan.classes plan).memberTexts text := by
  obtain ⟨hclasses, hlinks⟩ := Schema.forall_names_iff.1 hnames
  rw [document, body, Plan.quotedTexts]
  split_ifs
  · rw [List.forall_mem_singleton, Item.texts, List.forall_mem_singleton]
    exact Line.of_placeholder "class error[" "]" (List.mem_singleton_self _) (by decide) (by decide)
  · rw [List.forall_mem_append, List.forall_mem_map]
    refine ⟨fun box hbox => line_box (hclasses box hbox) fun text htext => ?_,
      Line.of_mem_map fun link h => .plain (plain_relationship (hlinks _ h))⟩
    exact List.mem_flatMap.2 ⟨box, hbox, htext⟩

end ClassDiagram

/-! ### Entity relations -/

namespace EntityRelation

/-- A column is plain on its line. -/
theorem plain_column (column : Column) : Plain column.line := by
  simp only [Column.line, plain_append]
  refine ⟨⟨⟨plain_attributeWord (by decide) _, by decide⟩, plain_attributeWord (by decide) _⟩, ?_⟩
  split_ifs
  · decide
  · refine plain_append.2 ⟨by decide, Text.plain_intercalate (by decide) fun word hword => ?_⟩
    obtain ⟨key, -, rfl⟩ := List.mem_map.1 hword
    cases key <;> decide

/-- An entity is written on lines. -/
theorem line_entity {entity : Entity} (hname : isValid entity.name = true) :
    ∀ text ∈ entity.item.texts, Line texts members text := by
  have hheader := plain_of_isValid hname
  rw [Entity.item]
  split_ifs
  · rw [Item.texts, List.forall_mem_singleton]
    exact .plain hheader
  · rw [Item.texts, List.forall_mem_append, List.forall_mem_cons, List.forall_mem_map,
      List.forall_mem_singleton]
    exact ⟨⟨.plain (plain_append.2 ⟨hheader, by decide⟩), fun column _ =>
      .plain (plain_column column)⟩, .plain (by decide)⟩

theorem plain_token (c : Cardinality) : Plain c.token := by
  rw [Cardinality.token, Cardinality.tokenChars, String.ofList_append, String.ofList_append,
    plain_append, plain_append]
  refine ⟨⟨?_, ?_⟩, ?_⟩
  · cases c.left <;> decide
  · cases c.identifying <;> decide
  · cases c.right <;> decide

/-- The line of a relationship has its label between double quotes. -/
theorem line_relationship {link : Relationship}
    (hends : isValid link.source = true ∧ isValid link.target = true)
    (htext : quoted link.label ∈ texts) : Line texts members link.line := by
  refine .quoted (link.source ++ " " ++ link.cardinality.token ++ " " ++ link.target ++ " : ")
    (quoted link.label) "" htext ?_ ?_ (plain_quoted _) (by decide)
  · rw [Relationship.line, String.append_empty]
  · simp only [plain_append]
    exact ⟨⟨⟨⟨⟨plain_of_isValid hends.1, by decide⟩, plain_token _⟩, by decide⟩,
      plain_of_isValid hends.2⟩, by decide⟩

theorem line_of_mem_items {plan : EntityRelation}
    (hnames : ∀ s ∈ (Plan.entityRelation plan).names, isValid s = true) :
    ∀ item ∈ plan.document.items, ∀ text ∈ item.texts,
      Line (Plan.entityRelation plan).quotedTexts members text := by
  obtain ⟨hentities, hlinks⟩ := Schema.forall_names_iff.1 hnames
  rw [document, body, Plan.quotedTexts]
  split_ifs
  · rw [List.forall_mem_singleton, Item.texts, List.forall_mem_append, List.forall_mem_cons,
      List.forall_mem_singleton, List.forall_mem_singleton]
    exact ⟨⟨.plain (by decide), Line.of_placeholder "string message " "" (List.mem_singleton_self _)
      (by decide) (by decide)⟩, .plain (by decide)⟩
  · rw [List.forall_mem_append, List.forall_mem_map]
    refine ⟨fun entity h => line_entity (hentities entity h),
      Line.of_mem_map fun link h => line_relationship (hlinks _ h) ?_⟩
    exact List.mem_map_of_mem h

end EntityRelation

/-! ### Documents -/

/-- **The lines of a document** are plain, have one quoted text, or are class members. -/
theorem Document.line_of_mem_lines {plan : Plan} (hnames : ∀ s ∈ plan.names, isValid s = true) :
    ∀ line ∈ plan.document.lines, Line plan.quotedTexts plan.memberTexts line := by
  refine Line.of_mem_document ?_
  cases plan with
  | flowchart plan => exact Flowchart.line_of_mem_items hnames
  | sequence plan => exact Sequence.line_of_mem_items hnames
  | classes plan => exact ClassDiagram.line_of_mem_items hnames
  | entityRelation plan => exact EntityRelation.line_of_mem_items hnames

/-- **The lines of a document are read back from its text.** -/
theorem Document.splitLines_text {plan : Plan} (hnames : ∀ s ∈ plan.names, isValid s = true) :
    splitLines plan.document.text = plan.document.lines :=
  Text.splitLines_intercalate (List.cons_ne_nil _ _) fun line hline =>
    (line_of_mem_lines hnames line hline).oneLine.lineFeed_not_mem

/-- **Documents with the same text have the same lines.** -/
theorem Document.text_eq_text_iff {plan plan' : Plan}
    (hnames : ∀ s ∈ plan.names, isValid s = true)
    (hnames' : ∀ s ∈ plan'.names, isValid s = true) :
    plan.document.text = plan'.document.text ↔ plan.document.lines = plan'.document.lines := by
  constructor
  · intro h
    rw [← splitLines_text hnames, h, splitLines_text hnames']
  · intro h
    rw [text, h, text]

end CodeDiagram
