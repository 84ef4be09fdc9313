/-
# Identifiers

The shared invariant of section 3 of `SPEC_FULL.md`.

An identifier is a non-empty text over `A–Z a–z 0–9 _`.  It can stand bare in
a diagram, without quotes.
-/

namespace CodeDiagram
namespace Identifier

/-- May stand in an identifier. -/
def isLetter (c : Char) : Bool := c.isAlphanum || c == '_'

/-- The text is an identifier. -/
def isValid (s : String) : Bool := !s.toList.isEmpty && s.toList.all isLetter

/-- The characters of a text that may stand in an identifier.  The result can be empty. -/
def strip (s : String) : String := String.ofList (s.toList.filter isLetter)

/-- A letter or `_`: may open an identifier where a digit may not. -/
def isOpening (c : Char) : Bool := c.isAlpha || c == '_'

end Identifier
end CodeDiagram
