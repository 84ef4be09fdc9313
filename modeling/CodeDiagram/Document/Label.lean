/-
# Free text inside a document

Section 4.4 of `SPEC_FULL.md`, escaping.

Free text of a plan goes into a document in one of four forms.  Each is made of
the words of the text with single spaces between them, so none can break a
line.

| form | stands | characters replaced |
| --- | --- | --- |
| `quoted` | between double quotes | `"` by `&quot;` |
| `statement` | at the end of a line, where `;` would end it | `;` by `#59;`, `"` by `#quot;` |
| `member?` | on a line of a class body | `{` and `}` by a space |
| `attributeWord` | as a bare word | the space by `_`; other marks are dropped |
-/

import CodeDiagram.Text.Blank

namespace CodeDiagram
namespace Label

/-- The text with a double quote written `&quot;`. -/
def quotedChars (cs : List Char) : List Char :=
  (Text.flattenChars cs).flatMap fun c => if c = '"' then "&quot;".toList else [c]

/-- The text that stands between double quotes. -/
def quoted (s : String) : String := String.ofList (quotedChars s.toList)

/-- A label that may be absent; a blank one counts as absent. -/
def shown? (label : Option String) : Option String :=
  (label.filter fun s => !Text.isBlankText s).map quoted

/-- The text with the two marks written as entities. -/
def statementChars (cs : List Char) : List Char :=
  (Text.flattenChars cs).flatMap fun c =>
    if c = ';' then "#59;".toList else if c = '"' then "#quot;".toList else [c]

/-- The text that ends a line of a sequence. -/
def statement (s : String) : String := String.ofList (statementChars s.toList)

/-- The characters of a class member.  A brace would end the class body early. -/
def memberChars (cs : List Char) : List Char :=
  Text.flattenChars (cs.map fun c => if c = '{' || c = '}' then ' ' else c)

/-- A line of a class body, unless nothing is left of the text. -/
def member? (s : String) : Option String :=
  let cs := memberChars s.toList
  if cs.isEmpty then none else some (String.ofList cs)

/-- A method is shown with parentheses. -/
def withCall (member : String) : String :=
  if member.toList.contains '(' then member else member ++ "()"

/-- May stand in an attribute word. -/
def isAttributeChar (c : Char) : Bool :=
  c.isAlphanum || c == '_' || c == '-' || c == '(' || c == ')' || c == '[' || c == ']'

/-- A word that the grammar reads as the mark of a key, in any case. -/
def isKeyMark (word : List Char) : Bool :=
  ["pk".toList, "fk".toList, "uk".toList].contains (word.map Char.toLower)

/-- The bare word of a text, or the `fallback` if nothing is left of it.  A key mark gets a `_`
after it, and a word that does not start with a letter or `_` gets one before it. -/
def attributeChars (fallback cs : List Char) : List Char :=
  let kept := ((Text.flattenChars cs).map fun c => if c = ' ' then '_' else c).filter
    isAttributeChar
  let word := if isKeyMark kept then kept ++ ['_'] else kept
  match word with
  | [] => fallback
  | c :: _ => if c.isAlpha || c == '_' then word else '_' :: word

/-- `attributeChars` on strings. -/
def attributeWord (fallback s : String) : String :=
  String.ofList (attributeChars fallback.toList s.toList)

end Label
end CodeDiagram
