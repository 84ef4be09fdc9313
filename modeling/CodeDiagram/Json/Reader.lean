/-
# Reading a JSON value from a text

The lexemes are taken one by one.  The arrays and objects that are open stand
on a stack of frames, and the state says what may come next:

| state | expected |
| --- | --- |
| `value` | a value |
| `item` | a value, or the end of the array just opened |
| `key` | a field name, or the end of the object just opened |
| `nextItem` | a value after a comma |
| `nextKey` | a field name after a comma |
| `colon` | the colon after a field name |
| `rest` | a comma or the end of the innermost frame; after the whole value, nothing |

`Json.read` takes only what has a value: every number in range, no half of a
surrogate pair, at most 127 arrays and objects inside each other.  `Json.skim`
is for texts of which only some fields matter.  It holds the text to the
grammar alone, lets `false` stand for what has no value, and keeps repeated
fields.  An object has no value if the name of one of its fields has none.
-/

import CodeDiagram.Json.Lexeme

namespace CodeDiagram
namespace Json

namespace Reader

/-- The fields of an object as they are read.  A name with half of a surrogate pair has no value. -/
abbrev Members := List (Except Error String × Json)

/-- An array or object that is still open.  The items and members are held last one first. -/
inductive Frame where
  | array (items : List Json)
  | object (members : Members) (key : Except Error String)

/-- What may come next. -/
inductive State where
  | value
  | item
  | key (members : Members)
  | nextItem
  | nextKey (members : Members)
  | colon
  /-- The value just read is complete. -/
  | rest (value : Json)

/-- How strictly a text is read. -/
structure Rules where
  /-- The number of arrays and objects that may be open, if it is limited. -/
  depth : Option Nat
  /-- What stands for a value that the text fails to give. -/
  missing : Error → Except Error Json
  /-- The object of the fields that the text gives. -/
  fields : Fields → Fields

/-- The rules of `Json.read`. -/
def strict : Rules := ⟨some 127, .error, Fields.merge⟩

/-- The rules of `Json.skim`. -/
def lenient : Rules := ⟨none, fun _ => .ok (.bool false), id⟩

/-- The value of a text that ends in a state, or what is missing. -/
def State.atEnd : State → List Frame → Except Cause Json
  | .value, _ => .error .endInValue
  | .item, _ => .error .endInArray
  | .key _, _ => .error .endInObject
  | .nextItem, _ => .error .endInValue
  | .nextKey _, _ => .error .endInValue
  | .colon, _ => .error .endInObject
  | .rest _, .array _ :: _ => .error .endInArray
  | .rest _, .object _ _ :: _ => .error .endInObject
  | .rest v, [] => .ok v

variable (rules : Rules)

/-- The rules allow one more open array or object. -/
def mayOpen (stack : List Frame) : Bool := rules.depth.all (stack.length < ·)

/-- Takes a lexeme that stands where a value is expected. -/
def takeValue (stack : List Frame) (lexeme : Lexeme) : Except Error (State × List Frame) :=
  match lexeme.token with
  | .scalar (.ok v) => .ok (.rest v, stack)
  | .scalar (.error e) => (rules.missing e).map fun v => (.rest v, stack)
  | .text (.ok s) => .ok (.rest (.string s), stack)
  | .text (.error e) => (rules.missing e).map fun v => (.rest v, stack)
  | .openArray =>
    if mayOpen rules stack then .ok (.item, .array [] :: stack)
    else .error ⟨.tooDeep, lexeme.place⟩
  | .openObject =>
    if mayOpen rules stack then .ok (.key [], stack) else .error ⟨.tooDeep, lexeme.place⟩
  | .brokenText e => .error e
  | .broken e => .error e
  | _ => .error ⟨.expectedValue, lexeme.place⟩

/-- Takes a lexeme that stands where a field name is expected. -/
def takeKey (members : Members) (stack : List Frame) (lexeme : Lexeme) :
    Except Error (State × List Frame) :=
  match lexeme.token with
  | .text (.ok s) => .ok (.colon, .object members (.ok s) :: stack)
  | .text (.error e) =>
    (rules.missing e).map fun _ => (.colon, .object members (.error e) :: stack)
  | .brokenText e => .error e
  | _ => .error ⟨.keyNotString, lexeme.place⟩

/-- The object of some members, the last one first. -/
def closed (members : Members) : Except Error Json :=
  match members.reverse.mapM fun m => m.1.map fun name => (name, m.2) with
  | .ok fields => .ok (.object (rules.fields fields))
  | .error e => rules.missing e

/-- Takes a lexeme that stands behind a value. -/
def takeRest (v : Json) (stack : List Frame) (lexeme : Lexeme) :
    Except Error (State × List Frame) :=
  match stack with
  | [] => .error ⟨.trailingCharacters, lexeme.place⟩
  | .array items :: stack =>
    match lexeme.token with
    | .comma => .ok (.nextItem, .array (v :: items) :: stack)
    | .closeArray => .ok (.rest (.array (v :: items).reverse), stack)
    | _ => .error ⟨.expectedCommaOrBracket, lexeme.place⟩
  | .object members key :: stack =>
    match lexeme.token with
    | .comma => .ok (.nextKey ((key, v) :: members), stack)
    | .closeObject => (closed rules ((key, v) :: members)).map fun v => (.rest v, stack)
    | _ => .error ⟨.expectedCommaOrBrace, lexeme.place⟩

/-- Takes the next lexeme. -/
def take (state : State) (stack : List Frame) (lexeme : Lexeme) :
    Except Error (State × List Frame) :=
  match state with
  | .value => takeValue rules stack lexeme
  | .item =>
    match lexeme.token, stack with
    | .closeArray, _ :: stack => .ok (.rest (.array []), stack)
    | _, _ => takeValue rules stack lexeme
  | .key members =>
    match lexeme.token with
    | .closeObject => .ok (.rest (.object []), stack)
    | _ => takeKey rules members stack lexeme
  | .nextItem =>
    match lexeme.token with
    | .closeArray => .error ⟨.trailingComma, lexeme.place⟩
    | _ => takeValue rules stack lexeme
  | .nextKey members =>
    match lexeme.token with
    | .closeObject => .error ⟨.trailingComma, lexeme.place⟩
    | _ => takeKey rules members stack lexeme
  | .colon =>
    match lexeme.token with
    | .colon => .ok (.value, stack)
    | _ => .error ⟨.expectedColon, lexeme.place⟩
  | .rest v => takeRest rules v stack lexeme

/-- Takes lexemes up to the end of the text, whose place is `last`. -/
def run (last : Position) : State → List Frame → List Lexeme → Except Error Json
  | state, stack, [] => (state.atEnd stack).mapError fun cause => ⟨cause, last⟩
  | state, stack, lexeme :: lexemes => do
    let (state, stack) ← take rules state stack lexeme
    run last state stack lexemes

/-- Reads a text by the rules. -/
def read (text : String) : Except Error Json :=
  let (lexemes, last) := Lexeme.all Position.start text.toList
  run rules last .value [] lexemes

end Reader

/-- The value of a text. -/
def read (text : String) : Except Error Json := Reader.read Reader.strict text

/-- The value of a text of which only some fields matter. -/
def skim (text : String) : Except Error Json := Reader.read Reader.lenient text

end Json
end CodeDiagram
