/-
# Blank characters and words

A blank is a character with the Unicode property `White_Space`:

| code points | characters |
| --- | --- |
| U+0009 – U+000D | tab, line feed, line tabulation, form feed, carriage return |
| U+0020, U+0085, U+00A0 | space, next line, no-break space |
| U+1680, U+2000 – U+200A | Ogham space mark, the spaces of fixed width |
| U+2028, U+2029 | line separator, paragraph separator |
| U+202F, U+205F, U+3000 | narrow no-break, mathematical and ideographic space |

A text is a sequence of words, the maximal runs without a blank, and of the
blanks around them.  `trim` takes the blanks off both ends, and `flatten`
writes the words with one space between two of them.
-/

namespace CodeDiagram
namespace Text

/-- Has the property `White_Space`. -/
def isBlank (c : Char) : Bool :=
  let n := c.toNat
  (9 ≤ n && n ≤ 13) || n == 0x20 || n == 0x85 || n == 0xA0 || n == 0x1680 ||
    (0x2000 ≤ n && n ≤ 0x200A) || n == 0x2028 || n == 0x2029 || n == 0x202F ||
    n == 0x205F || n == 0x3000

/-- Without the longest tail of characters that satisfy `p`. -/
def dropTailWhile (p : Char → Bool) (cs : List Char) : List Char :=
  (cs.reverse.dropWhile p).reverse

/-- Without the blanks at both ends. -/
def trimChars (cs : List Char) : List Char :=
  dropTailWhile isBlank (cs.dropWhile isBlank)

/-- The maximal runs without a blank, in order. -/
def words : List Char → List (List Char)
  | [] => []
  | c :: cs =>
    if isBlank c then words cs
    else
      match cs with
      | [] => [[c]]
      | d :: _ => if isBlank d then [c] :: words cs else (words cs).modifyHead (c :: ·)

/-- The words with one space between two of them. -/
def flattenChars (cs : List Char) : List Char :=
  [' '].intercalate (words cs)

/-- `trimChars` on a string. -/
def trim (s : String) : String := String.ofList (trimChars s.toList)

/-- `flattenChars` on a string. -/
def flatten (s : String) : String := String.ofList (flattenChars s.toList)

/-- Holds nothing but blanks; the empty text does. -/
def isBlankText (s : String) : Bool := s.toList.all isBlank

end Text
end CodeDiagram
