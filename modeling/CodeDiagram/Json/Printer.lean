/-
# Writing a JSON value

The text holds no blanks between lexemes.  In a string only the quote, the
backslash and the control characters below U+0020 are escaped, five of them by
a letter:

| character | escape |
| --- | --- |
| quote, backslash | `\"`, `\\` |
| U+0008, U+0009, U+000A, U+000C, U+000D | `\b`, `\t`, `\n`, `\f`, `\r` |
| other | `\u00` and two hexadecimal digits in lower case |

A number that is no integer is written in full, with a point.
-/

import CodeDiagram.Decimal.Shortest
import CodeDiagram.Json.Basic

namespace CodeDiagram
namespace Json

/-- A character of a string as it is written. -/
def escaped (c : Char) : List Char :=
  match c with
  | '"' => ['\\', '"']
  | '\\' => ['\\', '\\']
  | '\x08' => ['\\', 'b']
  | '\t' => ['\\', 't']
  | '\n' => ['\\', 'n']
  | '\x0c' => ['\\', 'f']
  | '\r' => ['\\', 'r']
  | c =>
    if c.toNat < 0x20 then
      "\\u00".toList ++ [Nat.digitChar (c.toNat / 16), Nat.digitChar (c.toNat % 16)]
    else [c]

/-- A string as it is written. -/
def printString (s : String) : List Char := ['"'] ++ s.toList.flatMap escaped ++ ['"']

/-- A number as it is written. -/
def Number.text : Number → String
  | .integer n => toString n
  | .decimal negative digits exponent =>
    (if negative then "-" else "") ++ Decimal.Digits.text ⟨digits, exponent⟩

/-- Parts with a comma between two of them. -/
def commas (parts : List (List Char)) : List Char := [','].intercalate parts

mutual

/-- A value as it is written. -/
def print : Json → List Char
  | .null => "null".toList
  | .bool true => "true".toList
  | .bool false => "false".toList
  | .number n => n.text.toList
  | .string s => printString s
  | .array items => ['['] ++ commas (printItems items) ++ [']']
  | .object fields => ['\x7b'] ++ commas (printFields fields) ++ ['\x7d']

/-- The items of an array as they are written. -/
def printItems : List Json → List (List Char)
  | [] => []
  | item :: items => print item :: printItems items

/-- The fields of an object as they are written. -/
def printFields : List (String × Json) → List (List Char)
  | [] => []
  | (name, value) :: fields => (printString name ++ [':'] ++ print value) :: printFields fields

end

/-- The text of a value. -/
def text (value : Json) : String := String.ofList value.print

/-- The number that stands for a binary number: the shortest decimal that reads back, or null for
a special value. -/
def ofBinary (f : Decimal.Format) : Decimal.Binary → Json
  | .finite negative x =>
    if x.significand = 0 then .number (.decimal negative 0 0)
    else
      let d := f.shortest x
      .number (.decimal negative d.digits d.power)
  | _ => .null

end Json
end CodeDiagram
