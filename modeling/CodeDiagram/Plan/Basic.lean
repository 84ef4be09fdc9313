/-
# Plans

Section 3 of `SPEC_FULL.md`, `ValidatedPlan`.

A plan says what a diagram shows.  It has two collections: the elements, each
with an identifier, and the links between them, each with the identifiers of
its two ends.

| kind | elements | links |
| --- | --- | --- |
| flowchart | nodes | edges |
| sequence | participants | steps |
| class | classes | relationships |
| entity relation | entities | relationships |
-/

import CodeDiagram.Kind
import CodeDiagram.Plan.Vocabulary
import CodeDiagram.Plan.Cardinality

namespace CodeDiagram

namespace Flowchart

/-- A box of a flowchart. -/
structure Node where
  id : String
  label : String
  kind : NodeKind
  deriving DecidableEq, Repr

/-- An arrow between two boxes. -/
structure Edge where
  source : String
  target : String
  label : Option String
  deriving DecidableEq, Repr

end Flowchart

/-- What a flowchart shows. -/
structure Flowchart where
  nodes : List Flowchart.Node
  edges : List Flowchart.Edge
  deriving DecidableEq, Repr

namespace Sequence

/-- A party to the exchange. -/
structure Participant where
  id : String
  description : String
  deriving DecidableEq, Repr

/-- A message from one participant to another. -/
structure Step where
  source : String
  target : String
  label : String
  kind : StepKind
  deriving DecidableEq, Repr

end Sequence

/-- What a sequence diagram shows. -/
structure Sequence where
  participants : List Sequence.Participant
  steps : List Sequence.Step
  deriving DecidableEq, Repr

namespace ClassDiagram

/-- A class with its members, each one line of text. -/
structure ClassBox where
  id : String
  properties : List String
  methods : List String
  deriving DecidableEq, Repr

/-- A relationship between two classes. -/
structure Relationship where
  source : String
  target : String
  kind : RelationKind
  label : Option String
  deriving DecidableEq, Repr

end ClassDiagram

/-- What a class diagram shows. -/
structure ClassDiagram where
  classes : List ClassDiagram.ClassBox
  relationships : List ClassDiagram.Relationship
  deriving DecidableEq, Repr

namespace EntityRelation

/-- A column of an entity; no key stands twice. -/
structure Column where
  name : String
  dataType : String
  keys : List KeyKind
  deriving DecidableEq, Repr

/-- A table of the data model. -/
structure Entity where
  name : String
  columns : List Column
  deriving DecidableEq, Repr

/-- A relationship between two entities. -/
structure Relationship where
  source : String
  target : String
  cardinality : Cardinality
  label : String
  deriving DecidableEq, Repr

end EntityRelation

/-- What an entity-relation diagram shows. -/
structure EntityRelation where
  entities : List EntityRelation.Entity
  relationships : List EntityRelation.Relationship
  deriving DecidableEq, Repr

/-- A plan of any kind. -/
inductive Plan where
  | flowchart (plan : Flowchart)
  | sequence (plan : Sequence)
  | classes (plan : ClassDiagram)
  | entityRelation (plan : EntityRelation)
  deriving DecidableEq, Repr

namespace Plan

/-- The kind of diagram that a plan describes. -/
def kind : Plan → Kind
  | .flowchart _ => .flowchart
  | .sequence _ => .sequence
  | .classes _ => .classes
  | .entityRelation _ => .entityRelation

end Plan
end CodeDiagram
