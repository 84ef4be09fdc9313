/-
# Number literals

A literal is a sign, the digits before the point, the digits after it and an
exponent.  Without point and exponent it is an integer, provided that its value
lies between `-2^63` and `2^64 - 1` and that it is not `-0`.

A literal is out of range if it is too large for double precision.  The
judgement looks at the leading digits that fit 64 bits, rounds them, and
multiplies by the rounded power of ten; digits that do not fit raise the power
before the point and are left out after it.
-/

import CodeDiagram.Json.Basic
import CodeDiagram.Decimal.Rounding

namespace CodeDiagram
namespace Json

/-- The exponent of a literal: its sign, as written, and its digits. -/
structure Exponent where
  sign : Option Char
  digits : List Char
  deriving DecidableEq, Repr

/-- A number literal.  `fraction` is empty if there is no point, and then only. -/
structure Literal where
  negative : Bool
  whole : List Char
  fraction : List Char
  exponent : Option Exponent
  deriving DecidableEq, Repr

/-- The number that decimal digits stand for. -/
def natOfDigits (digits : List Char) : Nat :=
  digits.foldl (fun n c => 10 * n + (c.toNat - '0'.toNat)) 0

/-- Reads leading digits for as long as the number fits 64 bits, and gives the digits left. -/
def leading64 : Nat → List Char → Nat × List Char
  | n, [] => (n, [])
  | n, c :: cs =>
    let longer := 10 * n + (c.toNat - '0'.toNat)
    if longer < Nat.pow 2 64 then leading64 longer cs else (n, c :: cs)

/-- The nearest number of double precision, which is again a natural number. -/
def nearestDouble (n : Nat) : Nat :=
  match Decimal.binary64.round ⟨n, 1⟩ with
  | some x => x.fraction.num / x.fraction.den
  | none => n

namespace Exponent

/-- The value of an exponent. -/
def value (e : Exponent) : Int :=
  if e.sign = some '-' then -(natOfDigits e.digits : Int) else natOfDigits e.digits

/-- The number of digits up to the one with which the exponent passes 31 bits, if it does. -/
def overlong? (e : Exponent) : Option Nat :=
  (List.range (e.digits.length + 1)).find? fun k => Nat.pow 2 31 ≤ natOfDigits (e.digits.take k)

end Exponent

namespace Literal

/-- A literal without point and exponent. -/
def isWhole (l : Literal) : Bool := l.fraction.isEmpty && l.exponent.isNone

/-- The leading digits that fit 64 bits, and the power of ten that goes with them before the
exponent is applied. -/
def leading (l : Literal) : Nat × Int :=
  let (n, more) := leading64 0 l.whole
  let (n, ignored) := leading64 n l.fraction
  (n, (more.length : Int) - ((l.fraction.length : Int) - ignored.length))

/-- The number of a literal. -/
def number (l : Literal) : Number :=
  let n := natOfDigits l.whole
  if l.isWhole && (if l.negative then 0 < n && n ≤ Nat.pow 2 63 else n < Nat.pow 2 64) then
    .integer (if l.negative then -(n : Int) else n)
  else
    .decimal l.negative (natOfDigits (l.whole ++ l.fraction))
      ((l.exponent.map Exponent.value).getD 0 - l.fraction.length)

/-- Too large for double precision. -/
def outOfRange (l : Literal) : Bool :=
  let (n, scale) := l.leading
  let power := scale + (l.exponent.map Exponent.value).getD 0
  n ≠ 0 && 0 ≤ power &&
    (308 < power ||
      (Decimal.binary64.round
        ⟨nearestDouble n * nearestDouble (Nat.pow 10 power.toNat), 1⟩).isNone)

/-- The text of a literal. -/
def text (l : Literal) : List Char :=
  (if l.negative then ['-'] else []) ++ l.whole ++
    (if l.fraction.isEmpty then [] else '.' :: l.fraction) ++
    (match l.exponent with
      | none => []
      | some e => 'e' :: (e.sign.toList ++ e.digits))

/-- The part of a literal that is read before it is found to be out of range: up to the digit
with which the exponent passes 31 bits, or all of it. -/
def textToRange (l : Literal) : List Char :=
  match l.exponent.bind Exponent.overlong? with
  | none => l.text
  | some k => l.text.take (l.text.length - (l.exponent.elim 0 fun e => e.digits.length) + k)

end Literal
end Json
end CodeDiagram
