/-
# The shortest decimal that reads back

The reals that round to a number of a format form an interval around it; its
ends belong to it when the significand is even.  A decimal with `n` digits is
a point of a grid of spacing `10^t`.  If any point of the grid lies in the
interval, one of the number's two neighbours on the grid does.  So the
shortest decimal is found by trying `n = 1, 2, …`: the first grid with a
neighbour in the interval gives it, of two the nearer one.

The text is positional and always has a point: `0.2`, `1.0`, `16777216.0`.
-/

import CodeDiagram.Decimal.Rounding

namespace CodeDiagram
namespace Decimal

/-- `p < q`, or `p ≤ q` if the end belongs to the interval. -/
def Fraction.below (closed : Bool) (p q : Fraction) : Bool :=
  if closed then p.num * q.den ≤ q.num * p.den else p.num * q.den < q.num * p.den

/-- The decimal `digits · 10^power`. -/
structure Digits where
  digits : Nat
  power : Int
  deriving DecidableEq, Repr

/-- The fraction that a decimal stands for. -/
def Digits.fraction (d : Digits) : Fraction := Fraction.scale ⟨d.digits, 1⟩ 10 d.power

/-- The lower end of the reals that round to `x`: half way to the number below, which is nearer
where the exponent changes. -/
def Format.lowerEnd (f : Format) (x : Dyadic) : Fraction :=
  if x.significand = Nat.pow 2 (f.precision - 1) && f.least < x.exponent then
    Dyadic.fraction ⟨4 * x.significand - 1, x.exponent - 2⟩
  else Dyadic.fraction ⟨2 * x.significand - 1, x.exponent - 1⟩

/-- The upper end of the reals that round to `x`. -/
def Format.upperEnd (x : Dyadic) : Fraction :=
  Dyadic.fraction ⟨2 * x.significand + 1, x.exponent - 1⟩

/-- The decimal rounds to `x`. -/
def Format.readsBack (f : Format) (x : Dyadic) (d : Digits) : Bool :=
  let closed := x.significand % 2 = 0
  (f.lowerEnd x).below closed d.fraction && d.fraction.below closed (Format.upperEnd x)

/-- The power of ten of the first digit of a positive fraction. -/
def Fraction.firstPower (q : Fraction) : Int :=
  let k : Int := (digitCount q.num : Int) - digitCount q.den
  let scaled := q.scale 10 (-k)
  if scaled.den ≤ scaled.num then k else k - 1

/-- The same decimal with one digit less, if it ends in zero. -/
def Digits.withoutZero (d : Digits) : Digits :=
  if d.digits % 10 = 0 then ⟨d.digits / 10, d.power + 1⟩ else d

/-- The neighbour of `x` on the grid of `10^power` that reads back, the nearer one if both do. -/
def Format.neighbour? (f : Format) (x : Dyadic) (power : Int) : Option Digits :=
  let scaled := x.fraction.scale 10 (-power)
  let down : Digits := ⟨scaled.num / scaled.den, power⟩
  let up : Digits := ⟨down.digits + 1, power⟩
  match f.readsBack x down, f.readsBack x up with
  | true, true => some ⟨scaled.nearest, power⟩
  | true, false => some down
  | false, true => some up
  | false, false => none

/-- The shortest decimal with at least `n` digits that rounds to a positive number whose first
digit stands at `10^first`; after `tries` grids the nearest point is taken. -/
def Format.shortestFrom (f : Format) (x : Dyadic) (first : Int) :
    (tries : Nat) → (n : Nat) → Digits
  | 0, n => ⟨(x.fraction.scale 10 (n - 1 - first)).nearest, first - (n - 1)⟩
  | tries + 1, n =>
    match f.neighbour? x (first - (n - 1)) with
    | some d => d
    | none => f.shortestFrom x first tries (n + 1)

/-- The shortest decimal that rounds to a positive number.  Seventeen digits read back in every
format up to binary64.  On the grid of one digit the upper neighbour can be the next power of
ten, which is the one decimal found here that ends in zero. -/
def Format.shortest (f : Format) (x : Dyadic) : Digits :=
  (f.shortestFrom x x.fraction.firstPower 16 1).withoutZero

/-- The positional text of a decimal, with at least one digit on each side of the point. -/
def Digits.text (d : Digits) : String :=
  let ds := Nat.toDigits 10 d.digits
  if 0 ≤ d.power then String.ofList (ds ++ List.replicate d.power.toNat '0') ++ ".0"
  else
    let places := (-d.power).toNat
    let padded := List.replicate (places + 1 - ds.length) '0' ++ ds
    String.ofList (padded.take (padded.length - places)) ++ "." ++
      String.ofList (padded.drop (padded.length - places))

/-- The text of a number. -/
def Binary.text (f : Format) : Binary → String
  | .finite negative x =>
    (if negative then "-" else "") ++
      (if x.significand = 0 then "0.0" else (f.shortest x).text)
  | .infinite negative => if negative then "-inf" else "inf"
  | .nan => "NaN"

end Decimal
end CodeDiagram
