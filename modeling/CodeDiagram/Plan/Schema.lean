/-
# The schema of a plan

Section 4.2 of `SPEC_FULL.md`, the function `validate`; the fields are those of
section 3.

The schema turns a candidate plan into a typed one, or reports the first
defect.  The plan must be an object with both collections of its kind.  The
elements are checked first, then the links; within an element or link the
fields are checked in the order of the table.

| kind | element | link |
| --- | --- | --- |
| flowchart | `id`, `label`, `type` | `from`, `to`, `label`? |
| sequence | `alias`, `description` | `from`, `to`, `label`, `type` |
| class | `id`, `properties`, `methods` | `from`, `to`, `type`, `label`? |
| entity relation | `name`, `columns` | `from`, `to`, `cardinality`, `label` |
| – its columns | `name`, `type`, `keys` | |

A name is an identifier, an end of a link is the name of an element, and a type
or key is a canonical spelling.  A label marked `?` may be absent or null.
-/

import CodeDiagram.Identifier.Basic
import CodeDiagram.Json.Basic
import CodeDiagram.Plan.Basic
import CodeDiagram.Plan.Defect

namespace CodeDiagram

open Json (Fields)

namespace Schema

/-- The result of a check. -/
abbrev Checked (α : Type) := Except Defect α

/-- A value, or a defect where there is none. -/
def require {α : Type} (value : Option α) (defect : Defect) : Checked α :=
  match value with
  | some a => .ok a
  | none => .error defect

/-- An object of a plan and the way to it. -/
structure Element where
  path : Path
  fields : Fields

namespace Element

variable (e : Element) (field : String)

/-- A field that holds a string. -/
def string : Checked String := require (e.fields.text? field) (.notAString e.path field)

/-- A field that holds a string, unless it is absent or null. -/
def optionalString : Checked (Option String) :=
  match e.fields.get? field with
  | none => .ok none
  | some .null => .ok none
  | some (.string s) => .ok (some s)
  | some _ => .error (.invalidOptional e.path field)

/-- A field that holds an array. -/
def array : Checked (List Json) := require (e.fields.items? field) (.notAnArray e.path field)

/-- A field that holds an array of strings. -/
def stringArray : Checked (List String) := do
  let items ← e.array field
  items.mapM fun item => require item.text? (.notAStringArray e.path field)

/-- A field that holds an identifier. -/
def identifier : Checked String := do
  let value ← e.string field
  if Identifier.isValid value then .ok value else .error (.invalidIdentifier e.path value)

/-- A field that holds one of the names `known`, which are those of a `target`. -/
def reference (known : List String) (target : String) : Checked String := do
  let value ← e.identifier field
  if known.contains value then .ok value
  else .error (.unknownReference e.path field target value)

/-- A field that holds the canonical spelling of a word. -/
def word (α : Type) [Vocabulary α] : Checked α := do
  let value ← e.string field
  require (Vocabulary.ofSpelling? value) (.unknownWord e.path field value (Vocabulary.expected α))

/-- A field that holds the token of a cardinality. -/
def cardinality : Checked Cardinality := do
  let value ← e.string field
  require (Cardinality.ofToken? value) (.invalidCardinality e.path value)

/-- One entry of a key list. -/
def keyEntry (entry : Json) : Checked KeyKind := do
  let value ← require entry.text? (.notAStringArray e.path field)
  require (Vocabulary.ofSpelling? value)
    (.unknownWord e.path field value (Vocabulary.expected KeyKind))

/-- A field that holds a list of keys; of equal keys the first is kept. -/
def keys : Checked (List KeyKind) := do
  let entries ← e.array field
  let keys ← entries.mapM (e.keyEntry field)
  return keys.eraseDups

end Element

/-- Checks the items of a collection, each of which must be an object, in order from position
`index` on. -/
def checkFrom {α : Type} (outer : Path) (collection : String) (check : Element → Checked α) :
    (index : Nat) → List Json → Checked (List α)
  | _, [] => .ok []
  | index, item :: items => do
    let path := outer ++ [⟨collection, index⟩]
    let fields ← require item.fields? (.elementNotObject path)
    let value ← check ⟨path, fields⟩
    let values ← checkFrom outer collection check (index + 1) items
    return value :: values

/-- Checks all items of a collection. -/
def checkAll {α : Type} (outer : Path) (collection : String) (check : Element → Checked α)
    (items : List Json) : Checked (List α) :=
  checkFrom outer collection check 0 items

/-- The two collections of a plan. -/
def collections (elements links : String) (plan : Json) : Checked (List Json × List Json) := do
  let fields ← require plan.fields? .notAnObject
  let first ← require (fields.items? elements) (.missingArray elements)
  let second ← require (fields.items? links) (.missingArray links)
  return (first, second)

/-- A flowchart node. -/
def node (e : Element) : Checked Flowchart.Node := do
  let id ← e.identifier "id"
  let label ← e.string "label"
  let kind ← e.word "type" NodeKind
  return { id, label, kind }

/-- A flowchart edge between nodes of known names. -/
def edge (known : List String) (e : Element) : Checked Flowchart.Edge := do
  let source ← e.reference "from" known "node"
  let target ← e.reference "to" known "node"
  let label ← e.optionalString "label"
  return { source, target, label }

/-- A flowchart. -/
def flowchart (plan : Json) : Checked Flowchart := do
  let (elements, links) ← collections "nodes" "edges" plan
  let nodes ← checkAll [] "nodes" node elements
  let edges ← checkAll [] "edges" (edge (nodes.map Flowchart.Node.id)) links
  return { nodes, edges }

/-- A participant of a sequence. -/
def participant (e : Element) : Checked Sequence.Participant := do
  let id ← e.identifier "alias"
  let description ← e.string "description"
  return { id, description }

/-- A step between participants of known names. -/
def step (known : List String) (e : Element) : Checked Sequence.Step := do
  let source ← e.reference "from" known "participant"
  let target ← e.reference "to" known "participant"
  let label ← e.string "label"
  let kind ← e.word "type" StepKind
  return { source, target, label, kind }

/-- A sequence. -/
def sequence (plan : Json) : Checked Sequence := do
  let (elements, links) ← collections "participants" "steps" plan
  let participants ← checkAll [] "participants" participant elements
  let steps ← checkAll [] "steps" (step (participants.map Sequence.Participant.id)) links
  return { participants, steps }

/-- A class. -/
def classBox (e : Element) : Checked ClassDiagram.ClassBox := do
  let id ← e.identifier "id"
  let properties ← e.stringArray "properties"
  let methods ← e.stringArray "methods"
  return { id, properties, methods }

/-- A relationship between classes of known names. -/
def classRelationship (known : List String) (e : Element) :
    Checked ClassDiagram.Relationship := do
  let source ← e.reference "from" known "class"
  let target ← e.reference "to" known "class"
  let kind ← e.word "type" RelationKind
  let label ← e.optionalString "label"
  return { source, target, kind, label }

/-- A class diagram. -/
def classDiagram (plan : Json) : Checked ClassDiagram := do
  let (elements, links) ← collections "classes" "relationships" plan
  let classes ← checkAll [] "classes" classBox elements
  let known := classes.map ClassDiagram.ClassBox.id
  let relationships ← checkAll [] "relationships" (classRelationship known) links
  return { classes, relationships }

/-- A column of an entity. -/
def column (e : Element) : Checked EntityRelation.Column := do
  let name ← e.string "name"
  let dataType ← e.string "type"
  let keys ← e.keys "keys"
  return { name, dataType, keys }

/-- An entity. -/
def entity (e : Element) : Checked EntityRelation.Entity := do
  let name ← e.identifier "name"
  let items ← e.array "columns"
  let columns ← checkAll e.path "columns" column items
  return { name, columns }

/-- A relationship between entities of known names. -/
def entityRelationship (known : List String) (e : Element) :
    Checked EntityRelation.Relationship := do
  let source ← e.reference "from" known "entity"
  let target ← e.reference "to" known "entity"
  let cardinality ← e.cardinality "cardinality"
  let label ← e.string "label"
  return { source, target, cardinality, label }

/-- An entity-relation diagram. -/
def entityRelation (plan : Json) : Checked EntityRelation := do
  let (elements, links) ← collections "entities" "relationships" plan
  let entities ← checkAll [] "entities" entity elements
  let known := entities.map EntityRelation.Entity.name
  let relationships ← checkAll [] "relationships" (entityRelationship known) links
  return { entities, relationships }

end Schema

/-- The typed plan of a candidate, or its first defect. -/
def Plan.ofJson (kind : Kind) (plan : Json) : Except Defect Plan :=
  match kind with
  | .flowchart => (Schema.flowchart plan).map .flowchart
  | .sequence => (Schema.sequence plan).map .sequence
  | .classes => (Schema.classDiagram plan).map .classes
  | .entityRelation => (Schema.entityRelation plan).map .entityRelation

end CodeDiagram
