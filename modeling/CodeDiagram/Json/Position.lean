/-
# Places in a text

A place is given by the number of its line, from one, and the number of bytes
of UTF-8 between the start of that line and the place.
-/

namespace CodeDiagram
namespace Json

/-- A place in a text. -/
structure Position where
  line : Nat
  column : Nat
  deriving DecidableEq, Repr

namespace Position

/-- Before the first character. -/
def start : Position := ⟨1, 0⟩

/-- The place after a character. -/
def step (p : Position) (c : Char) : Position :=
  if c = '\n' then ⟨p.line + 1, 0⟩ else ⟨p.line, p.column + c.utf8Size⟩

/-- The place after a text. -/
def past (p : Position) (text : List Char) : Position := text.foldl step p

/-- The place `n` bytes further on in a text, or its end if it has fewer bytes.  The place can
lie inside a character. -/
def bytes (p : Position) : Nat → List Char → Position
  | 0, _ => p
  | _ + 1, [] => p
  | n + 1, c :: cs =>
    if c.utf8Size ≤ n + 1 then (p.step c).bytes (n + 1 - c.utf8Size) cs
    else ⟨p.line, p.column + (n + 1)⟩
termination_by _ cs => cs.length

end Position
end Json
end CodeDiagram
