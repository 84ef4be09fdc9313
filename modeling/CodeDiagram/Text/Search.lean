/-
# Finding a mark in a text

`cut mark text` parts a text at the first place where `mark` stands, and gives
what stands before it and what stands after it.  `contains` asks whether there
is such a place.
-/

namespace CodeDiagram
namespace Text

/-- The texts before and after the first occurrence of `mark`. -/
def cut (mark : List Char) : List Char → Option (List Char × List Char)
  | [] => if mark.isEmpty then some ([], []) else none
  | c :: cs =>
    if mark.isPrefixOf (c :: cs) then some ([], (c :: cs).drop mark.length)
    else (cut mark cs).map fun parts => (c :: parts.1, parts.2)

/-- `mark` stands somewhere in the text. -/
def contains (mark text : List Char) : Bool := (cut mark text).isSome

/-- The text without all copies of `mark` at its end.  An empty `mark` takes nothing off. -/
def dropTailMarks (mark text : List Char) : List Char :=
  (go text.length text.reverse).reverse
where
  /-- `fuel` bounds the number of copies; a text has no more of them than characters. -/
  go : Nat → List Char → List Char
    | 0, cs => cs
    | fuel + 1, cs =>
      if mark.reverse.isPrefixOf cs then go fuel (cs.drop mark.length) else cs

end Text
end CodeDiagram
