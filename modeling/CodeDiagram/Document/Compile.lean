/-
# The document of a plan

Section 4.4 of `SPEC_FULL.md`, the function `compile`.

A plan is written as one item for each element, in order, and then one line for
each link, in order.

| link | line |
| --- | --- |
| flowchart edge | `A --> B`, or `A -- "label" --> B` |
| sequence step | `A->>B: label`, with `-)` or `-->>` by its kind |
| class relationship | `A --|> B : label`, with `*--`, `o--` or `-->` by its kind |
| entity relationship | `A ||--o{ B : "label"`, with its cardinality |

The end of a link that its plan calls the source always stands first; an
inheritance reads `Sub --|> Parent`.  A plan without elements gives a document
that says so and shows no links.
-/

import CodeDiagram.Document.Basic
import CodeDiagram.Document.Label
import CodeDiagram.Plan.Basic

namespace CodeDiagram

open Label (quoted shown? statement member? withCall attributeWord)

/-- A text in double quotes. -/
def inQuotes (s : String) : String := "\"" ++ s ++ "\""

namespace Flowchart

/-- The looks of the four kinds of node. -/
def styles : List String :=
  ["classDef startEnd fill:#2ecc71,stroke:#27ae60,color:#fff,font-weight:bold",
   "classDef process fill:#3498db,stroke:#2980b9,color:#fff",
   "classDef decision fill:#e67e22,stroke:#d35400,color:#fff",
   "classDef data fill:#9b59b6,stroke:#8e44ad,color:#fff"]

/-- The brackets around the label of a node. -/
def brackets : NodeKind → String × String
  | .startEnd => ("([", "])")
  | .process => ("[", "]")
  | .decision => ("\x7b", "\x7d")
  | .data => ("[/", "/]")

/-- The line of a node. -/
def Node.line (node : Node) : String :=
  node.id ++ (brackets node.kind).1 ++ inQuotes (quoted node.label) ++ (brackets node.kind).2 ++
    ":::" ++ Vocabulary.spelling node.kind

/-- The line of an edge. -/
def Edge.line (edge : Edge) : String :=
  match shown? edge.label with
  | some label => edge.source ++ " -- " ++ inQuotes label ++ " --> " ++ edge.target
  | none => edge.source ++ " --> " ++ edge.target

/-- What the document shows below the looks. -/
def body (plan : Flowchart) : List Item :=
  if plan.nodes.isEmpty then [.line ("error[" ++ inQuotes Document.placeholder ++ "]")]
  else
    (plan.nodes.map fun node => .line node.line) ++ (plan.edges.map fun edge => .line edge.line)

/-- The document of a flowchart. -/
def document (plan : Flowchart) : Document := ⟨.flowchart, styles.map .line ++ plan.body⟩

end Flowchart

namespace Sequence

/-- The line of a participant.  A description that shows nothing new is left out. -/
def Participant.line (participant : Participant) : String :=
  let description := statement participant.description
  if description.isEmpty || description == participant.id then "participant " ++ participant.id
  else "participant " ++ participant.id ++ " as " ++ description

/-- The arrow of a step. -/
def arrow : StepKind → String
  | .sync => "->>"
  | .async => "-)"
  | .reply => "-->>"

/-- The line of a step. -/
def Step.line (step : Step) : String :=
  step.source ++ arrow step.kind ++ step.target ++ ": " ++ statement step.label

/-- What the document shows. -/
def body (plan : Sequence) : List Item :=
  if plan.participants.isEmpty then [.line ("participant error as " ++ Document.placeholder)]
  else
    (plan.participants.map fun participant => .line participant.line) ++
      (plan.steps.map fun step => .line step.line)

/-- The document of a sequence. -/
def document (plan : Sequence) : Document := ⟨.sequence, plan.body⟩

end Sequence

namespace ClassDiagram

/-- The lines of a class body: the properties, then the methods. -/
def ClassBox.members (box : ClassBox) : List String :=
  box.properties.filterMap member? ++ (box.methods.filterMap member?).map withCall

/-- The item of a class; a body without lines is left out. -/
def ClassBox.item (box : ClassBox) : Item :=
  if box.members.isEmpty then .line ("class " ++ box.id)
  else .block ("class " ++ box.id) box.members

/-- The arrow of a relationship. -/
def arrow : RelationKind → String
  | .inheritance => "--|>"
  | .composition => "*--"
  | .aggregation => "o--"
  | .association => "-->"

/-- The line of a relationship. -/
def Relationship.line (link : Relationship) : String :=
  link.source ++ " " ++ arrow link.kind ++ " " ++ link.target ++
    (match shown? link.label with
      | some label => " : " ++ label
      | none => "")

/-- What the document shows. -/
def body (plan : ClassDiagram) : List Item :=
  if plan.classes.isEmpty then [.line ("class error[" ++ inQuotes Document.placeholder ++ "]")]
  else
    plan.classes.map ClassBox.item ++ (plan.relationships.map fun link => .line link.line)

/-- The document of a class diagram. -/
def document (plan : ClassDiagram) : Document := ⟨.classes, plan.body⟩

end ClassDiagram

namespace EntityRelation

/-- The line of a column: type, name and keys. -/
def Column.line (column : Column) : String :=
  attributeWord "string" column.dataType ++ " " ++ attributeWord "field" column.name ++
    (if column.keys.isEmpty then ""
      else " " ++ ", ".intercalate (column.keys.map Vocabulary.spelling))

/-- The item of an entity; a body without columns is left out. -/
def Entity.item (entity : Entity) : Item :=
  if entity.columns.isEmpty then .line entity.name
  else .block entity.name (entity.columns.map Column.line)

/-- The line of a relationship. -/
def Relationship.line (link : Relationship) : String :=
  link.source ++ " " ++ link.cardinality.token ++ " " ++ link.target ++ " : " ++
    inQuotes (quoted link.label)

/-- What the document shows. -/
def body (plan : EntityRelation) : List Item :=
  if plan.entities.isEmpty then
    [.block "error" ["string message " ++ inQuotes Document.placeholder]]
  else
    plan.entities.map Entity.item ++ (plan.relationships.map fun link => .line link.line)

/-- The document of an entity-relation diagram. -/
def document (plan : EntityRelation) : Document := ⟨.entityRelation, plan.body⟩

end EntityRelation

/-- The document of a plan. -/
def Plan.document : Plan → Document
  | .flowchart plan => plan.document
  | .sequence plan => plan.document
  | .classes plan => plan.document
  | .entityRelation plan => plan.document

end CodeDiagram
