/-
# Kinds of diagram

Sections 3 (`DiagramRequest`) and 11 (display names, names given by users) of
`SPEC_FULL.md`.

| kind | title | opening line |
| --- | --- | --- |
| flowchart | `Flowchart` | `graph TD` |
| sequence | `Sequence Diagram` | `sequenceDiagram` |
| class | `Class Diagram` | `classDiagram` |
| entity relation | `ER Diagram` | `erDiagram` |

A kind is named in free spelling: only the ASCII letters and digits of a name
count, without regard to case.
-/

namespace CodeDiagram

/-- The kinds of diagram that a plan can describe. -/
inductive Kind where
  | flowchart
  | sequence
  | classes
  | entityRelation
  deriving DecidableEq, Repr

namespace Kind

/-- All kinds, in the order in which they are offered. -/
def all : List Kind := [.flowchart, .sequence, .classes, .entityRelation]

/-- The name shown to people. -/
def title : Kind → String
  | .flowchart => "Flowchart"
  | .sequence => "Sequence Diagram"
  | .classes => "Class Diagram"
  | .entityRelation => "ER Diagram"

/-- The line that opens every document of the kind. -/
def declaration : Kind → String
  | .flowchart => "graph TD"
  | .sequence => "sequenceDiagram"
  | .classes => "classDiagram"
  | .entityRelation => "erDiagram"

/-- The part of a name that counts: its ASCII letters and digits, in lower case. -/
def foldName (s : String) : String :=
  String.ofList ((s.toList.filter Char.isAlphanum).map Char.toLower)

/-- The accepted names of each kind, folded. -/
def names : Kind → List String
  | .flowchart => ["flowchart", "flow", "graph"]
  | .sequence => ["sequence", "sequencediagram"]
  | .classes => ["class", "classdiagram"]
  | .entityRelation => ["er", "erdiagram", "entityrelation", "entityrelationship"]

/-- The kind that a name stands for. -/
def ofName? (s : String) : Option Kind :=
  all.find? fun kind => kind.names.contains (foldName s)

/-- What is said of a name that stands for no kind. -/
def unknownMessage (s : String) : String :=
  "Unknown diagram kind \"" ++ s ++ "\" (expected flowchart, sequence, class or er)"

end Kind
end CodeDiagram
