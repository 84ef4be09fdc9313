/-
# Repairing a candidate plan

Section 4.3 of `SPEC_FULL.md`, the function `sanitize`.

A candidate plan is a JSON value that should describe a diagram but was not
written with care.  Repair never fails: it mends what it can and passes the
rest on, for the schema to report.

| kind | elements | name | label | links |
| --- | --- | --- | --- | --- |
| flowchart | `nodes` | `id` | `label` | `edges` |
| sequence | `participants` | `alias` | `description` | `steps` |
| class | `classes` | `id` | – | `relationships` |
| entity relation | `entities` | `name` | – | `relationships` |

* Elements are declared in order: the name becomes an identifier, and a missing
  or blank label becomes the free name.
* A flowchart node without a string name or a known type is dropped.
* A link whose two ends do not both mean an element is dropped, and the ends of
  the others become identifiers.
* Loose spellings of types, keys and cardinalities become canonical; the lists
  of a class or an entity are empty when they are absent or null.
-/

import CodeDiagram.Json.Basic
import CodeDiagram.Plan.Cardinality
import CodeDiagram.Plan.Naming
import CodeDiagram.Plan.Vocabulary

namespace CodeDiagram

open Json (Fields)

namespace Repair

/-- The canonical spelling of a loosely spelled word in a field. -/
def canonicalWord (α : Type) [Vocabulary α] (field : String) (element : Fields) : Fields :=
  match (element.text? field).bind (Vocabulary.ofLoose? (α := α)) with
  | some word => element.set field (.string (Vocabulary.spelling word))
  | none => element

/-- The field is absent or null. -/
def isUnset (field : String) (element : Fields) : Bool :=
  match element.get? field with
  | none => true
  | some .null => true
  | some _ => false

/-- An absent or null field becomes an empty list. -/
def emptyIfUnset (field : String) (element : Fields) : Fields :=
  if isUnset field element then element.set field (.array []) else element

/-- The parts of a text between commas. -/
def commaParts : List Char → List (List Char)
  | [] => [[]]
  | c :: cs => if c = ',' then [] :: commaParts cs else (commaParts cs).modifyHead (c :: ·)

/-- The entries of a key list: a list as it stands, a text at its commas without the blank parts,
nothing if the field is unset.  Any other value is no key list. -/
def keyEntries? : Option Json → Option (List Json)
  | none => some []
  | some .null => some []
  | some (.string s) =>
    some (((commaParts s.toList).filter fun part => !part.all Text.isBlank).map
      fun part => .string (String.ofList part))
  | some (.array items) => some items
  | some _ => none

/-- The canonical spelling of a loosely spelled key. -/
def canonicalKey (entry : Json) : Json :=
  match entry.text?.bind (Vocabulary.ofLoose? (α := KeyKind)) with
  | some key => .string (Vocabulary.spelling key)
  | none => entry

/-- Makes the key list of a column a list of canonical spellings. -/
def canonicalKeys (column : Fields) : Fields :=
  match keyEntries? (column.get? "keys") with
  | some entries => column.set "keys" (.array (entries.map canonicalKey))
  | none => column

/-- Repairs the columns of an entity. -/
def canonicalColumns (entity : Fields) : Fields :=
  match entity.items? "columns" with
  | some columns =>
    entity.set "columns" (.array (columns.map fun column =>
      match column with
      | .object fields => .object (canonicalKeys fields)
      | other => other))
  | none => entity

/-- The cardinality that a phrase such as `one-to-many` or `N:1` means; only its ASCII letters and
digits count, without regard to case. -/
def phraseCardinality? (raw : List Char) : Option Cardinality :=
  let phrase := String.ofList ((raw.filter Char.isAlphanum).map Char.toLower)
  if ["onetoone", "11", "1to1"].contains phrase then
    some ⟨.exactlyOne, true, .exactlyOne⟩
  else if ["onetomany", "1n", "1m", "1tomany", "1ton"].contains phrase then
    some ⟨.exactlyOne, true, .zeroOrMore⟩
  else if ["manytoone", "n1", "m1", "manyto1", "nto1"].contains phrase then
    some ⟨.zeroOrMore, true, .exactlyOne⟩
  else if ["manytomany", "nm", "mn", "nn"].contains phrase then
    some ⟨.zeroOrMore, true, .zeroOrMore⟩
  else none

/-- A cardinality with its phrase replaced by the token, or else without its blanks. -/
def canonicalCardinality (raw : String) : String :=
  let compact := raw.toList.filter fun c => !Text.isBlank c
  match phraseCardinality? compact with
  | some cardinality => cardinality.token
  | none => String.ofList compact

/-- Repairs the cardinality of a relationship. -/
def tidyCardinality (link : Fields) : Fields :=
  match link.text? "cardinality" with
  | some raw => link.set "cardinality" (.string (canonicalCardinality raw))
  | none => link

/-- A node with a string name and a known type. -/
def isUsableNode : Json → Bool
  | .object node =>
    (Fields.text? "id" node).isSome &&
      ((Fields.text? "type" node).bind (Vocabulary.ofLoose? (α := NodeKind))).isSome
  | _ => false

/-- What the repair of one kind of diagram consists of. -/
structure Recipe where
  naming : Identifier.Naming
  /-- The collection of the elements. -/
  elements : String
  /-- The collection of the links. -/
  links : String
  /-- The field that holds the name of an element. -/
  nameField : String
  /-- The field that holds the label of an element, if elements have labels. -/
  labelField : Option String
  /-- The elements that are not dropped. -/
  keeps : Json → Bool
  /-- What else is mended in an element. -/
  tidyElement : Fields → Fields
  /-- What else is mended in a link. -/
  tidyLink : Fields → Fields

/-- The repair of each kind of diagram. -/
def recipe : Kind → Recipe
  | .flowchart =>
    { naming := Kind.flowchart.naming, elements := "nodes", links := "edges", nameField := "id"
      labelField := some "label", keeps := isUsableNode
      tidyElement := canonicalWord NodeKind "type", tidyLink := id }
  | .sequence =>
    { naming := Kind.sequence.naming, elements := "participants", links := "steps"
      nameField := "alias", labelField := some "description", keeps := fun _ => true
      tidyElement := id, tidyLink := canonicalWord StepKind "type" }
  | .classes =>
    { naming := Kind.classes.naming, elements := "classes", links := "relationships"
      nameField := "id", labelField := none, keeps := fun _ => true
      tidyElement := fun element => emptyIfUnset "methods" (emptyIfUnset "properties" element)
      tidyLink := canonicalWord RelationKind "type" }
  | .entityRelation =>
    { naming := Kind.entityRelation.naming, elements := "entities", links := "relationships"
      nameField := "name", labelField := none, keeps := fun _ => true
      tidyElement := fun element => canonicalColumns (emptyIfUnset "columns" element)
      tidyLink := tidyCardinality }

/-- The label of an element: the one it has, or its free name, or its identifier if that name is
blank. -/
def fillLabel (field name id : String) (element : Fields) : Fields :=
  if (element.text? field).any fun label => !Text.isBlankText label then element
  else element.set field (.string (if name.isEmpty then id else name))

namespace Recipe

variable (recipe : Recipe)

/-- Declares an element, if it has a string name. -/
def declare (table : Identifier.Table) (element : Fields) : Fields × Identifier.Table :=
  match element.text? recipe.nameField with
  | none => (element, table)
  | some raw =>
    let (id, table) := table.declare raw
    let element :=
      match recipe.labelField with
      | some field => fillLabel field (Text.trim raw) id element
      | none => element
    (element.set recipe.nameField (.string id), table)

/-- Declares and mends the elements in order. -/
def declareAll (table : Identifier.Table) : List Json → List Json × Identifier.Table
  | [] => ([], table)
  | .object element :: rest =>
    let (element, table) := recipe.declare table element
    let (rest, table) := declareAll table rest
    (.object (recipe.tidyElement element) :: rest, table)
  | other :: rest =>
    let (rest, table) := declareAll table rest
    (other :: rest, table)

/-- Mends a link, if both its ends mean an element. -/
def rewireFields? (table : Identifier.Table) (link : Fields) : Option Fields := do
  let source ← (link.text? "from").bind table.resolve?
  let target ← (link.text? "to").bind table.resolve?
  return recipe.tidyLink ((link.set "from" (.string source)).set "to" (.string target))

/-- Mends a link, if it is an object and both its ends mean an element. -/
def rewire? (table : Identifier.Table) : Json → Option Json
  | .object link => (recipe.rewireFields? table link).map .object
  | _ => none

/-- The elements of a plan, declared and mended, and the table of their names. -/
def declared (plan : Fields) : Option (List Json) × Identifier.Table :=
  match plan.items? recipe.elements with
  | none => (none, .empty recipe.naming)
  | some items =>
    let (items, table) := recipe.declareAll (.empty recipe.naming) (items.filter recipe.keeps)
    (some items, table)

/-- Replaces a field that holds a list. -/
def replaceItems (field : String) (items : Option (List Json)) (plan : Fields) : Fields :=
  match items with
  | some items => plan.set field (.array items)
  | none => plan

/-- Mends the two collections of a candidate plan. -/
def applyFields (plan : Fields) : Fields :=
  let (elements, table) := recipe.declared plan
  let links := (plan.items? recipe.links).map fun items => items.filterMap (recipe.rewire? table)
  replaceItems recipe.links links (replaceItems recipe.elements elements plan)

/-- Mends a candidate plan.  Only an object can be mended. -/
def apply : Json → Json
  | .object plan => .object (recipe.applyFields plan)
  | other => other

end Recipe
end Repair

/-- Mends a candidate plan for a diagram of the given kind. -/
def Json.repair (kind : Kind) (plan : Json) : Json := (Repair.recipe kind).apply plan

end CodeDiagram
