/-
# Naming the elements of a plan

Section 4.3 of `SPEC_FULL.md`, identifier sanitization: the fallback counter,
the reserved words and the map from original texts to identifiers.

The elements of a plan carry free names.  A table gives each of them an
identifier, and turns a reference to a free name into the identifier of the
element that it means.

| free name | identifier |
| --- | --- |
| keeps no letter | the first free one of `stem_0`, `stem_1`, … (`Table.fresh`) |
| starts with a digit, where names may not | `stem_` before what is kept |
| is a reserved word in any case | `_` after it |
| any other | its letters, digits and `_` |

A reference means the element declared last under the same free name; failing
that, a declared identifier that equals the cleaned reference.
-/

import CodeDiagram.Text.Blank
import CodeDiagram.Identifier.Basic

namespace CodeDiagram
namespace Identifier

/-- How the elements of one kind of diagram are named. -/
structure Naming where
  /-- Stands before the number of a generated name. -/
  stem : String
  /-- The words of the target grammar, in lower case. -/
  reserved : List String
  /-- A name must open with a letter or `_`. -/
  leadingLetter : Bool
  deriving DecidableEq, Repr

namespace Naming

/-- The text is a reserved word, in any case of its ASCII letters. -/
def isReserved (naming : Naming) (s : String) : Bool :=
  naming.reserved.contains (String.ofList (s.toList.map Char.toLower))

/-- `stem_` before a name that opens with a digit, where a letter is demanded. -/
def withOpening (naming : Naming) (s : String) : String :=
  if naming.leadingLetter && !(s.toList.head?.any isOpening) then naming.stem ++ "_" ++ s else s

/-- `_` after a reserved word. -/
def withoutReserved (naming : Naming) (s : String) : String :=
  if naming.isReserved s then s ++ "_" else s

/-- The identifier that a free name spells, if any character of it is kept. -/
def clean? (naming : Naming) (name : String) : Option String :=
  let kept := strip name
  if kept.toList.isEmpty then none
  else some (naming.withoutReserved (naming.withOpening kept))

/-- The generated name of a number. -/
def generated (naming : Naming) (n : Nat) : String := naming.stem ++ "_" ++ toString n

end Naming

/-- A declared element: its trimmed free name and its identifier. -/
structure Entry where
  name : String
  id : String
  deriving DecidableEq, Repr

/-- The elements declared so far. -/
structure Table where
  naming : Naming
  /-- The number of the next generated name. -/
  next : Nat
  /-- The declared elements, the latest first. -/
  entries : List Entry
  deriving DecidableEq, Repr

namespace Table

/-- No element is declared. -/
def empty (naming : Naming) : Table := ⟨naming, 0, []⟩

/-- The identifiers of the declared elements, the latest first. -/
def ids (t : Table) : List String := t.entries.map Entry.id

/-- Some declared element has this identifier. -/
def isDeclared (t : Table) (id : String) : Bool := t.ids.contains id

/-- The first number from `n` on whose generated name is not declared, if it is among the
first `tries + 1`. -/
def firstFree (t : Table) : (tries : Nat) → (n : Nat) → Nat
  | 0, n => n
  | tries + 1, n => if t.isDeclared (t.naming.generated n) then t.firstFree tries (n + 1) else n

/-- The number of the next free generated name.  Each declared element can take one number
away, so a free one is met after at most as many numbers as there are elements. -/
def fresh (t : Table) : Nat := t.firstFree t.entries.length t.next

/-- Declares an element under a free name, and gives its identifier. -/
def declare (t : Table) (raw : String) : String × Table :=
  let name := Text.trim raw
  match t.naming.clean? name with
  | some id => (id, { t with entries := ⟨name, id⟩ :: t.entries })
  | none =>
    let n := t.fresh
    let id := t.naming.generated n
    (id, { t with next := n + 1, entries := ⟨name, id⟩ :: t.entries })

/-- The identifier of the element that was declared last under the free name. -/
def named? (t : Table) (name : String) : Option String :=
  (t.entries.find? fun entry => entry.name == name).map Entry.id

/-- The identifier that a reference means. -/
def resolve? (t : Table) (raw : String) : Option String :=
  let name := Text.trim raw
  match t.named? name with
  | some id => some id
  | none => (t.naming.clean? name).filter t.isDeclared

end Table
end Identifier
end CodeDiagram
