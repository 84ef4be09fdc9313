/-
# What can be wrong with a candidate plan

Section 4.2 of `SPEC_FULL.md`, `ValidationError`.

A defect names the place where it was found: the path of collections and
positions that leads to an element, such as `edges[3]` or
`entities[0].columns[2]`.
-/

namespace CodeDiagram

/-- One step of a path: a position in a collection. -/
structure PathStep where
  collection : String
  index : Nat
  deriving DecidableEq, Repr

/-- The way to an element, from the outside in. -/
abbrev Path := List PathStep

/-- The text of a path. -/
def Path.text (path : Path) : String :=
  ".".intercalate (path.map fun step => step.collection ++ "[" ++ toString step.index ++ "]")

/-- Why a candidate plan does not fit the schema of its kind. -/
inductive Defect where
  | notAnObject
  | missingArray (field : String)
  | elementNotObject (path : Path)
  | notAString (path : Path) (field : String)
  | notAnArray (path : Path) (field : String)
  | notAStringArray (path : Path) (field : String)
  | invalidOptional (path : Path) (field : String)
  | unknownWord (path : Path) (field value expected : String)
  | invalidIdentifier (path : Path) (value : String)
  | unknownReference (path : Path) (field target value : String)
  | invalidCardinality (path : Path) (value : String)
  deriving DecidableEq, Repr

namespace Defect

/-- A text in double quotes. -/
def quote (s : String) : String := "\"" ++ s ++ "\""

/-- The wording of a defect. -/
def message : Defect → String
  | .notAnObject => "The AI response is not a JSON object"
  | .missingArray field => "The AI response must contain a " ++ quote field ++ " array"
  | .elementNotObject path => path.text ++ " is not an object"
  | .notAString path field => path.text ++ ": " ++ quote field ++ " must be a string"
  | .notAnArray path field => path.text ++ ": " ++ quote field ++ " must be an array"
  | .notAStringArray path field =>
    path.text ++ ": " ++ quote field ++ " must be an array of strings"
  | .invalidOptional path field =>
    path.text ++ ": " ++ quote field ++ ", if provided, must be a string"
  | .unknownWord path field value expected =>
    path.text ++ ": " ++ quote value ++ " is not a valid " ++ quote field ++
      " (expected one of " ++ expected ++ ")"
  | .invalidIdentifier path value =>
    path.text ++ ": " ++ quote value ++ " is not a valid identifier (only letters, digits and _)"
  | .unknownReference path field target value =>
    path.text ++ ": " ++ quote field ++ " refers to unknown " ++ target ++ " " ++ quote value
  | .invalidCardinality path value =>
    path.text ++ ": " ++ quote value ++
      " is not a valid cardinality (expected a Mermaid token like \"||--o\x7b\")"

end Defect
end CodeDiagram
