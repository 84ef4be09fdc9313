/-
# Documents

Section 4.4 of `SPEC_FULL.md`, the document that is put out.

A document is its declaration and a list of items below it.  An item is a line,
or a block: a header that opens a brace, lines inside, and a closing brace.
The lines of a document carry four spaces for each level they stand below the
declaration, and a line feed parts two of them.
-/

import CodeDiagram.Kind

namespace CodeDiagram

/-- What stands below the declaration of a document. -/
inductive Item where
  | line (text : String)
  | block (header : String) (body : List String)
  deriving DecidableEq, Repr

/-- A diagram as text. -/
structure Document where
  kind : Kind
  items : List Item
  deriving DecidableEq, Repr

/-- What one level of depth adds before a line. -/
def Document.indent : String := "    "

/-- The lines of an item. -/
def Item.lines : Item → List String
  | .line text => [Document.indent ++ text]
  | .block header body =>
    (Document.indent ++ header ++ " \x7b") ::
      (body.map fun text => Document.indent ++ Document.indent ++ text) ++
      [Document.indent ++ "\x7d"]

namespace Document

/-- The lines of a document. -/
def lines (d : Document) : List String := d.kind.declaration :: d.items.flatMap Item.lines

/-- The text of a document. -/
def text (d : Document) : String := "\n".intercalate d.lines

/-- Stands in a diagram that would be empty. -/
def placeholder : String := "Could not generate a valid diagram from the code."

end Document
end CodeDiagram
