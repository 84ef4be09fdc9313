/-
# Lexemes of a JSON text

The text is cut into punctuation, strings, words and numbers; space, tab, line
feed and carriage return stand between them.  Each lexeme carries the place
one byte past its start, where a complaint about it is raised.

Two faults do not stop the cutting.  A string with half of a surrogate pair
and a number that is too large are lexemes without a value, and carry the
error that says so.  At any other fault the text is not cut further: the last
lexeme is `broken`.
-/

import CodeDiagram.Json.Error
import CodeDiagram.Json.Literal

namespace CodeDiagram
namespace Json

/-- The content of a lexeme. -/
inductive Token where
  | openArray
  | closeArray
  | openObject
  | closeObject
  | comma
  | colon
  /-- A string. -/
  | text (value : Except Error String)
  /-- A number, `null`, `true` or `false`. -/
  | scalar (value : Except Error Json)
  /-- The start of a string that does not end well. -/
  | brokenText (error : Error)
  /-- The start of any other lexeme that does not end well. -/
  | broken (error : Error)

/-- Is followed by no further lexeme. -/
def Token.isBroken : Token → Bool
  | .brokenText _ => true
  | .broken _ => true
  | _ => false

/-- A token and the place one byte past its start. -/
structure Lexeme where
  token : Token
  place : Position

/-- What is read at a place of a text, and how many characters it takes. -/
structure Reading (α : Type) where
  value : α
  length : Nat

namespace Lexeme

/-- Stands between lexemes. -/
def isSpace (c : Char) : Bool := c == ' ' || c == '\n' || c == '\t' || c == '\r'

/-- The value of a hexadecimal digit. -/
def hexDigit? (c : Char) : Option Nat :=
  if '0' ≤ c ∧ c ≤ '9' then some (c.toNat - '0'.toNat)
  else if 'a' ≤ c ∧ c ≤ 'f' then some (c.toNat - 'a'.toNat + 10)
  else if 'A' ≤ c ∧ c ≤ 'F' then some (c.toNat - 'A'.toNat + 10)
  else none

/-- The value of hexadecimal digits. -/
def hexNumber? (digits : List Char) : Option Nat :=
  digits.foldlM (fun n c => (hexDigit? c).map (16 * n + ·)) 0

/-- The number of bytes of a text in UTF-8. -/
def byteCount (cs : List Char) : Nat := cs.foldl (fun n c => n + c.utf8Size) 0

/-- The code unit that four hexadecimal digits give. -/
def codeUnit (p : Position) (cs : List Char) : Except Error Nat :=
  if byteCount (cs.take 4) < 4 then .error ⟨.endInString, p.bytes 4 cs⟩
  else
    match hexNumber? (cs.take 4) with
    | some n => .ok n
    | none => .error ⟨.invalidEscape, p.bytes 4 cs⟩

/-- The second half of a surrogate pair, as an escape of its own. -/
def lowHalf (p : Position) : List Char → Except Error Nat
  | [] => .error ⟨.endInString, p⟩
  | '\\' :: [] => .error ⟨.endInString, p.step '\\'⟩
  | '\\' :: 'u' :: cs => do
    let digits := (p.step '\\').step 'u'
    let unit ← codeUnit digits cs
    if 0xDC00 ≤ unit ∧ unit ≤ 0xDFFF then .ok unit
    else .error ⟨.loneSurrogate, digits.past (cs.take 4)⟩
  | '\\' :: c :: cs => .error ⟨.unfinishedPair, (p.step '\\').bytes 1 (c :: cs)⟩
  | c :: cs => .error ⟨.unfinishedPair, p.bytes 1 (c :: cs)⟩

/-- The character that the digits of a `\u` escape give, with those of a second escape if the
first is half of a pair.  A half without the other is a fault of its own. -/
def codePoint (p : Position) (cs : List Char) : Except Error (Reading (Except Error Char)) := do
  let unit ← codeUnit p cs
  let after := p.past (cs.take 4)
  if 0xDC00 ≤ unit ∧ unit ≤ 0xDFFF then .ok ⟨.error ⟨.loneSurrogate, after⟩, 4⟩
  else if 0xD800 ≤ unit ∧ unit ≤ 0xDBFF then
    match lowHalf after (cs.drop 4) with
    | .error e => .ok ⟨.error e, 4⟩
    | .ok low => .ok ⟨.ok (Char.ofNat (0x10000 + (unit - 0xD800) * 0x400 + (low - 0xDC00))), 10⟩
  else .ok ⟨.ok (Char.ofNat unit), 4⟩

/-- What a backslash and the text behind it stand for; the place is behind the backslash. -/
def escape (p : Position) : List Char → Except Error (Reading (Except Error Char))
  | [] => .error ⟨.endInString, p⟩
  | c :: cs =>
    match c with
    | '"' => .ok ⟨.ok '"', 1⟩
    | '\\' => .ok ⟨.ok '\\', 1⟩
    | '/' => .ok ⟨.ok '/', 1⟩
    | 'b' => .ok ⟨.ok '\x08', 1⟩
    | 'f' => .ok ⟨.ok '\x0c', 1⟩
    | 'n' => .ok ⟨.ok '\n', 1⟩
    | 'r' => .ok ⟨.ok '\r', 1⟩
    | 't' => .ok ⟨.ok '\t', 1⟩
    | 'u' => (codePoint (p.step 'u') cs).map fun r => ⟨r.value, r.length + 1⟩
    | _ => .error ⟨.invalidEscape, p.bytes 1 (c :: cs)⟩

/-- Reads a string behind its opening quote.  `fault` is the first half pair met so far, `seen`
holds the characters so far, the last one first, and `length` counts those taken. -/
def textFrom (p : Position) (fault : Option Error) (seen : List Char) (length : Nat) :
    List Char → Except Error (Reading (Except Error String))
  | [] => .error (fault.getD ⟨.endInString, p⟩)
  | c :: cs =>
    if c = '"' then
      .ok ⟨match fault with
        | none => .ok (String.ofList seen.reverse)
        | some e => .error e, length + 1⟩
    else if c = '\\' then
      match escape (p.step c) cs with
      | .error e => .error (fault.getD e)
      | .ok r =>
        let q := (p.step c).past (cs.take r.length)
        match r.value with
        | .ok d => textFrom q fault (d :: seen) (length + 1 + r.length) (cs.drop r.length)
        | .error e =>
          textFrom q (some (fault.getD e)) seen (length + 1 + r.length) (cs.drop r.length)
    else if c.toNat < 0x20 then .error (fault.getD ⟨.controlCharacter, p.step c⟩)
    else textFrom (p.step c) fault (c :: seen) (length + 1) cs
termination_by cs => cs.length
decreasing_by all_goals (simp only [List.length_cons, List.length_drop]; omega)

/-- Compares the text with the letters of a word. -/
def word (p : Position) : (letters : List Char) → List Char → Except Error Unit
  | [], _ => .ok ()
  | _ :: _, [] => .error ⟨.endInValue, p⟩
  | letter :: letters, c :: cs =>
    if c = letter then word (p.step c) letters cs
    else .error ⟨.expectedWord, p.bytes 1 (c :: cs)⟩

/-- The digits before the point: `0`, or digits that do not start with it. -/
def wholePart (p : Position) : List Char → Except Error (List Char)
  | [] => .error ⟨.endInValue, p⟩
  | '0' :: cs =>
    if cs.head?.any Char.isDigit then .error ⟨.invalidNumber, (p.step '0').bytes 1 cs⟩
    else .ok ['0']
  | c :: cs =>
    if c.isDigit then .ok ((c :: cs).takeWhile Char.isDigit)
    else .error ⟨.invalidNumber, p.bytes 1 (c :: cs)⟩

/-- The digits behind a point, or none if there is no point. -/
def fractionPart (p : Position) : List Char → Except Error (List Char)
  | '.' :: cs =>
    let digits := cs.takeWhile Char.isDigit
    if digits.isEmpty then
      .error ⟨if cs.isEmpty then .endInValue else .invalidNumber, (p.step '.').bytes 1 cs⟩
    else .ok digits
  | _ => .ok []

/-- The exponent, if there is one. -/
def exponentPart (p : Position) : List Char → Except Error (Option Exponent)
  | [] => .ok none
  | c :: cs =>
    if c = 'e' ∨ c = 'E' then
      let sign := cs.head?.filter fun d => d = '+' || d = '-'
      let q := (p.step c).past sign.toList
      match cs.drop sign.toList.length with
      | [] => .error ⟨.endInValue, q⟩
      | d :: ds =>
        if d.isDigit then .ok (some ⟨sign, (d :: ds).takeWhile Char.isDigit⟩)
        else .error ⟨.invalidNumber, q.bytes 1 (d :: ds)⟩
    else .ok none

/-- Reads a number literal. -/
def literal (p : Position) (cs : List Char) : Except Error Literal := do
  let negative := cs.head? = some '-'
  let part : Literal := ⟨negative, [], [], none⟩
  let rest (l : Literal) := (p.past l.text, cs.drop l.text.length)
  let (q, behind) := rest part
  let part := { part with whole := ← wholePart q behind }
  let (q, behind) := rest part
  let part := { part with fraction := ← fractionPart q behind }
  let (q, behind) := rest part
  return { part with exponent := ← exponentPart q behind }

/-- Reads a number.  One that is too large has no value. -/
def number (p : Position) (cs : List Char) : Except Error (Reading (Except Error Json)) := do
  let l ← literal p cs
  let value : Except Error Json :=
    if l.outOfRange then .error ⟨.numberOutOfRange, p.past l.textToRange⟩
    else .ok (.number l.number)
  return ⟨value, l.text.length⟩

/-- Reads the token that starts with `c`, at a place.  A character that opens no token is a
broken one. -/
def tokenAt (p : Position) (c : Char) (cs : List Char) : Reading Token :=
  let letters (rest : String) (value : Json) : Reading Token :=
    match word (p.step c) rest.toList cs with
    | .ok () => ⟨.scalar (.ok value), rest.length + 1⟩
    | .error e => ⟨.broken e, 1⟩
  match c with
  | '[' => ⟨.openArray, 1⟩
  | ']' => ⟨.closeArray, 1⟩
  | '{' => ⟨.openObject, 1⟩
  | '}' => ⟨.closeObject, 1⟩
  | ',' => ⟨.comma, 1⟩
  | ':' => ⟨.colon, 1⟩
  | '"' =>
    match textFrom (p.step c) none [] 0 cs with
    | .ok r => ⟨.text r.value, r.length + 1⟩
    | .error e => ⟨.brokenText e, 1⟩
  | 'n' => letters "ull" .null
  | 't' => letters "rue" (.bool true)
  | 'f' => letters "alse" (.bool false)
  | _ =>
    if c = '-' || c.isDigit then
      match number p (c :: cs) with
      | .ok r => ⟨.scalar r.value, r.length⟩
      | .error e => ⟨.broken e, 1⟩
    else ⟨.broken ⟨.expectedValue, p.bytes 1 (c :: cs)⟩, 1⟩

/-- The lexemes of a text that starts at a place, and the place of its end. -/
def all (p : Position) : List Char → List Lexeme × Position
  | [] => ([], p)
  | c :: cs =>
    if isSpace c then all (p.step c) cs
    else
      let r := tokenAt p c cs
      let lexeme : Lexeme := ⟨r.value, p.bytes 1 (c :: cs)⟩
      if r.value.isBroken then ([lexeme], p)
      else
        let rest := cs.drop (r.length - 1)
        let (lexemes, last) := all ((p.step c).past (cs.take (r.length - 1))) rest
        (lexeme :: lexemes, last)
termination_by cs => cs.length
decreasing_by all_goals (simp only [List.length_cons, List.length_drop]; omega)

end Lexeme
end Json
end CodeDiagram
