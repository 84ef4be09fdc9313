/-
# Closed vocabularies

The closed sets of section 3 of `SPEC_FULL.md` and the enum normalization of
section 4.3.

Some fields of a plan hold one word of a small, closed set.  A word has one
canonical spelling, and the vocabulary may list synonyms.

`Vocabulary.ofSpelling?` reads the canonical spelling only.  `Vocabulary.ofLoose?`
reads any spelling that folds to a canonical one or to a synonym, where
folding drops the blanks at the ends and the marks ` - _ / .`, and ignores
case.
-/

import CodeDiagram.Text.Blank

namespace CodeDiagram

/-- A closed set of words. -/
class Vocabulary (α : Type) where
  /-- The words, in the order in which messages list them. -/
  members : List α
  /-- Further accepted spellings. -/
  synonyms : List (String × α)
  /-- The canonical spelling. -/
  spelling : α → String

namespace Vocabulary

/-- Parts a word but does not change it. -/
def isSeparator (c : Char) : Bool :=
  c == ' ' || c == '-' || c == '_' || c == '/' || c == '.'

/-- The lower case of a character, as far as it matters to an ASCII spelling.  Of all
characters, `A`–`Z` and the Kelvin sign U+212A are the ones whose lower case is an ASCII
character; the lower case of any other one leaves a character that no spelling holds, and so
does the character itself. -/
def lower (c : Char) : Char := if c.toNat = 0x212A then 'k' else c.toLower

/-- What two spellings of the same word have in common. -/
def fold (s : String) : String :=
  String.ofList
    (((Text.trimChars s.toList).filter fun c => !isSeparator c).map lower)

variable {α : Type} [Vocabulary α]

/-- The word with exactly this spelling. -/
def ofSpelling? (s : String) : Option α :=
  (members : List α).find? fun word => spelling word == s

/-- The word that a loose spelling means: a canonical spelling wins over a synonym. -/
def ofLoose? (s : String) : Option α :=
  let folded := fold s
  if folded.isEmpty then none
  else
    match (members : List α).find? fun word => fold (spelling word) == folded with
    | some word => some word
    | none =>
      ((synonyms : List (String × α)).find? fun synonym => fold synonym.1 == folded).map Prod.snd

/-- The canonical spellings, as messages list them. -/
def expected (α : Type) [Vocabulary α] : String :=
  ", ".intercalate ((members : List α).map fun word => "'" ++ spelling word ++ "'")

end Vocabulary

/-- The kinds of a flowchart node. -/
inductive NodeKind where
  | startEnd
  | process
  | decision
  | data
  deriving DecidableEq, Repr

instance : Vocabulary NodeKind where
  members := [.startEnd, .process, .decision, .data]
  synonyms :=
    [("start", .startEnd), ("end", .startEnd), ("terminal", .startEnd),
     ("terminator", .startEnd), ("action", .process), ("step", .process),
     ("condition", .decision), ("branch", .decision), ("io", .data), ("input", .data),
     ("output", .data), ("input/output", .data)]
  spelling
    | .startEnd => "startEnd"
    | .process => "process"
    | .decision => "decision"
    | .data => "data"

/-- The kinds of a step in a sequence. -/
inductive StepKind where
  | sync
  | async
  | reply
  deriving DecidableEq, Repr

instance : Vocabulary StepKind where
  members := [.sync, .async, .reply]
  synonyms :=
    [("synchronous", .sync), ("call", .sync), ("request", .sync), ("asynchronous", .async),
     ("message", .async), ("event", .async), ("return", .reply), ("response", .reply)]
  spelling
    | .sync => "sync"
    | .async => "async"
    | .reply => "reply"

/-- The kinds of a relationship between classes. -/
inductive RelationKind where
  | inheritance
  | composition
  | aggregation
  | association
  deriving DecidableEq, Repr

instance : Vocabulary RelationKind where
  members := [.inheritance, .composition, .aggregation, .association]
  synonyms :=
    [("extends", .inheritance), ("inherits", .inheritance), ("generalization", .inheritance),
     ("implements", .inheritance), ("realization", .inheritance), ("composes", .composition),
     ("aggregates", .aggregation), ("uses", .association), ("dependency", .association),
     ("reference", .association)]
  spelling
    | .inheritance => "inheritance"
    | .composition => "composition"
    | .aggregation => "aggregation"
    | .association => "association"

/-- The keys that a column can belong to. -/
inductive KeyKind where
  | primary
  | foreign
  deriving DecidableEq, Repr

instance : Vocabulary KeyKind where
  members := [.primary, .foreign]
  synonyms :=
    [("primary key", .primary), ("primary", .primary), ("foreign key", .foreign),
     ("foreign", .foreign), ("references", .foreign)]
  spelling
    | .primary => "PK"
    | .foreign => "FK"

end CodeDiagram
