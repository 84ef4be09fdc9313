/-
# JSON values

The `RawPlan` of section 3 of `SPEC_FULL.md` is such a value.

An object is a list of fields.  Looking a name up finds the first field of
that name, and setting a name replaces that field where it stands, or adds a
field at the end.
-/

namespace CodeDiagram

namespace Json

/-- A number.  An integer of the 64-bit ranges is held as its value; any other number as it is
written, `(-1)^negative · digits · 10^exponent`. -/
inductive Number where
  | integer (value : Int)
  | decimal (negative : Bool) (digits : Nat) (exponent : Int)
  deriving DecidableEq, Repr

end Json

/-- A JSON value. -/
inductive Json where
  | null
  | bool (value : Bool)
  | number (value : Json.Number)
  | string (text : String)
  | array (items : List Json)
  | object (fields : List (String × Json))
  deriving Repr, Inhabited

namespace Json

/-- The fields of an object. -/
abbrev Fields := List (String × Json)

namespace Fields

/-- The value of the first field of this name. -/
def get? (name : String) : Fields → Option Json
  | [] => none
  | (key, value) :: rest => if key = name then some value else get? name rest

/-- Gives a field a value. -/
def set (name : String) (value : Json) : Fields → Fields
  | [] => [(name, value)]
  | (key, old) :: rest =>
    if key = name then (key, value) :: rest else (key, old) :: set name value rest

/-- The fields with each name once: of repeated fields the last value counts. -/
def merge (fields : Fields) : Fields :=
  fields.foldl (fun merged field => merged.set field.1 field.2) []

end Fields

/-- The text of a string. -/
def text? : Json → Option String
  | .string text => some text
  | _ => none

/-- The items of an array. -/
def items? : Json → Option (List Json)
  | .array items => some items
  | _ => none

/-- The fields of an object. -/
def fields? : Json → Option Fields
  | .object fields => some fields
  | _ => none

/-- The text of a field that holds a string. -/
def Fields.text? (name : String) (fields : Fields) : Option String :=
  (fields.get? name).bind Json.text?

/-- The items of a field that holds an array. -/
def Fields.items? (name : String) (fields : Fields) : Option (List Json) :=
  (fields.get? name).bind Json.items?

end Json
end CodeDiagram
