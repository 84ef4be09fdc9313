/-
# Cardinalities

Section 4.2 of `SPEC_FULL.md`, the closed grammar of cardinalities.

A cardinality is written as a token of six characters: the left end, the line,
the right end.

| multiplicity | left | right |
| --- | --- | --- |
| zero or one | `|o` | `o|` |
| exactly one | `||` | `||` |
| zero or more | `}o` | `o{` |
| one or more | `}|` | `|{` |

The line is `--` in an identifying relationship and `..` in any other.
-/

namespace CodeDiagram

/-- How many things take part at one end of a relationship. -/
inductive Multiplicity where
  | zeroOrOne
  | exactlyOne
  | zeroOrMore
  | oneOrMore
  deriving DecidableEq, Repr

namespace Multiplicity

/-- The two characters of a left end. -/
def leftToken : Multiplicity → List Char
  | .zeroOrOne => ['|', 'o']
  | .exactlyOne => ['|', '|']
  | .zeroOrMore => ['}', 'o']
  | .oneOrMore => ['}', '|']

/-- The two characters of a right end: those of the left end, seen from the other side. -/
def rightToken : Multiplicity → List Char
  | .zeroOrOne => ['o', '|']
  | .exactlyOne => ['|', '|']
  | .zeroOrMore => ['o', '{']
  | .oneOrMore => ['|', '{']

/-- Reads a left end. -/
def ofLeft? : Char → Char → Option Multiplicity
  | '|', 'o' => some .zeroOrOne
  | '|', '|' => some .exactlyOne
  | '}', 'o' => some .zeroOrMore
  | '}', '|' => some .oneOrMore
  | _, _ => none

/-- Reads a right end. -/
def ofRight? : Char → Char → Option Multiplicity
  | 'o', '|' => some .zeroOrOne
  | '|', '|' => some .exactlyOne
  | 'o', '{' => some .zeroOrMore
  | '|', '{' => some .oneOrMore
  | _, _ => none

end Multiplicity

/-- The two ends of a relationship and the line between them. -/
structure Cardinality where
  left : Multiplicity
  identifying : Bool
  right : Multiplicity
  deriving DecidableEq, Repr

namespace Cardinality

/-- The two characters of the line. -/
def lineToken (identifying : Bool) : List Char :=
  if identifying then ['-', '-'] else ['.', '.']

/-- Reads a line. -/
def ofLine? : Char → Char → Option Bool
  | '-', '-' => some true
  | '.', '.' => some false
  | _, _ => none

/-- The token of a cardinality, as characters. -/
def tokenChars (c : Cardinality) : List Char :=
  c.left.leftToken ++ lineToken c.identifying ++ c.right.rightToken

/-- The token of a cardinality. -/
def token (c : Cardinality) : String := String.ofList c.tokenChars

/-- Reads a token.  Nothing may stand around it or inside it. -/
def ofToken? (s : String) : Option Cardinality :=
  match s.toList with
  | [a, b, c, d, e, f] => do
    let left ← Multiplicity.ofLeft? a b
    let identifying ← ofLine? c d
    let right ← Multiplicity.ofRight? e f
    return ⟨left, identifying, right⟩
  | _ => none

end Cardinality
end CodeDiagram
