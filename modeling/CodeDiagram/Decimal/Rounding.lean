/-
# Rounding a fraction to a binary floating-point number

A finite number of a format is `s · 2^e` with a significand `s` below
`2^precision` and an exponent `e` between `least` and `greatest`; a number
that is not the smallest of its kind has `2^(precision-1) ≤ s`.

| format | precision | least | greatest |
| --- | ---: | ---: | ---: |
| binary64 | 53 | -1074 | 971 |
| binary32 | 24 | -149 | 104 |

A fraction rounds to the nearest number of the format, and a fraction half way
between two of them to the one with the even significand.  What would need a
larger exponent than `greatest` overflows.
-/

namespace CodeDiagram
namespace Decimal

/-- A binary floating-point format. -/
structure Format where
  precision : Nat
  least : Int
  greatest : Int
  deriving DecidableEq, Repr

/-- Double precision. -/
def binary64 : Format := ⟨53, -1074, 971⟩

/-- Single precision. -/
def binary32 : Format := ⟨24, -149, 104⟩

/-- The number `significand · 2^exponent`. -/
structure Dyadic where
  significand : Nat
  exponent : Int
  deriving DecidableEq, Repr

/-- A fraction of natural numbers; the denominator is not zero. -/
structure Fraction where
  num : Nat
  den : Nat
  deriving DecidableEq, Repr

/-- `q · base^k`, for an exponent of either sign. -/
def Fraction.scale (q : Fraction) (base : Nat) (k : Int) : Fraction :=
  if 0 ≤ k then ⟨q.num * Nat.pow base k.toNat, q.den⟩
  else ⟨q.num, q.den * Nat.pow base (-k).toNat⟩

/-- The fraction that a number stands for. -/
def Dyadic.fraction (x : Dyadic) : Fraction := Fraction.scale ⟨x.significand, 1⟩ 2 x.exponent

/-- The nearest natural number; a half goes to the even one. -/
def Fraction.nearest (q : Fraction) : Nat :=
  let whole := q.num / q.den
  let rest := q.num % q.den
  if 2 * rest < q.den then whole
  else if q.den < 2 * rest then whole + 1
  else if whole % 2 = 0 then whole else whole + 1

namespace Format

/-- The exponent of the unit in which a positive fraction has `precision` binary digits before
the point, or `least` if that is larger. -/
def unitOf (f : Format) (q : Fraction) : Int :=
  let e : Int := (q.num.log2 : Int) - q.den.log2 - f.precision
  let scaled := q.scale 2 (-e)
  max f.least (if Nat.pow 2 f.precision ≤ scaled.num / scaled.den then e + 1 else e)

/-- The nearest number of the format; `none` is an overflow. -/
def round (f : Format) (q : Fraction) : Option Dyadic :=
  if q.num = 0 then some ⟨0, f.least⟩
  else
    let e := f.unitOf q
    let s := (q.scale 2 (-e)).nearest
    let x : Dyadic :=
      if s = Nat.pow 2 f.precision then ⟨Nat.pow 2 (f.precision - 1), e + 1⟩ else ⟨s, e⟩
    if f.greatest < x.exponent then none else some x

end Format

/-- A number of a binary format, with its special values. -/
inductive Binary where
  | finite (negative : Bool) (magnitude : Dyadic)
  | infinite (negative : Bool)
  | nan
  deriving DecidableEq, Repr

/-- The number of decimal digits. -/
def digitCount (n : Nat) : Nat := (Nat.toDigits 10 n).length

namespace Binary

/-- Rounds a signed fraction. -/
def ofFraction (f : Format) (negative : Bool) (q : Fraction) : Binary :=
  match f.round q with
  | some x => .finite negative x
  | none => .infinite negative

/-- Rounds `(-1)^negative · digits · 10^exponent`.  A decimal whose first digit stands beyond
`10^400` overflows in each format, and one whose first digit stands below `10^(-400)` is zero
in each, so their powers are not computed. -/
def ofDecimal (f : Format) (negative : Bool) (digits : Nat) (exponent : Int) : Binary :=
  let magnitude := exponent + digitCount digits
  if digits = 0 || magnitude < -400 then .finite negative ⟨0, f.least⟩
  else if 400 < magnitude then .infinite negative
  else ofFraction f negative (Fraction.scale ⟨digits, 1⟩ 10 exponent)

/-- Rounds a number of one format to another. -/
def convert (f : Format) : Binary → Binary
  | .finite negative x => ofFraction f negative x.fraction
  | .infinite negative => .infinite negative
  | .nan => .nan

end Binary
end Decimal
end CodeDiagram
