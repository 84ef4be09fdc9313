/-
# The TOML of a settings file

The file of section 10.3 of `SPEC_FULL.md` is written in TOML.

A text is a series of lines.  A line is blank, or opens a table, or gives a
value to a key; it may end in a comment.

| value | written |
| --- | --- |
| text | `"…"` with escapes, `'…'` without, and `"""…"""`, `'''…'''` over several lines |
| integer | decimal with a sign, `0x…`, `0o…`, `0b…`; 64 bits |
| float | with a point, an exponent or both; `inf`, `nan` |
| boolean | `true`, `false` |
| date | `1979-05-27`, `07:32:00.5`, or both as in `1979-05-27T07:32:00-08:00` |
| array | `[…]`, over several lines if need be |
| table | `{…}`, on one line |

A digit group may be parted by single underscores.  A table gives each of its
keys one value.

The functions read a value at the start of a text, and give the text behind it.
-/

import CodeDiagram.Decimal.Rounding

namespace CodeDiagram

/-- A value.  A date stays as it is written, and the entries of a table carry the path of their
key. -/
inductive Toml where
  | text (s : String)
  | integer (n : Int)
  | float (x : Decimal.Binary)
  | boolean (b : Bool)
  | date (written : String)
  | array (items : List Toml)
  | table (entries : List (List String × Toml))

namespace Toml

/-- The text of a text. -/
def text? : Toml → Option String
  | .text s => some s
  | _ => none

/-- The value of a boolean. -/
def boolean? : Toml → Option Bool
  | .boolean b => some b
  | _ => none

/-- Reads something at the start of a text, and gives the text behind it. -/
abbrev Reader (α : Type) := List Char → Option (α × List Char)

/-- A line that is not blank. -/
inductive Line where
  /-- Opens a table, or a further table of a list of tables. -/
  | header (path : List String) (inList : Bool)
  | entry (path : List String) (value : Toml)

/-! ### Blanks and comments -/

def isSpace (c : Char) : Bool := c == ' ' || c == '\t'

def skipSpace (cs : List Char) : List Char := cs.dropWhile isSpace

/-- Is no control character other than the tab. -/
def isPrintable (c : Char) : Bool := c == '\t' || (0x20 ≤ c.toNat && c.toNat != 0x7F)

/-- The text behind a line feed, with or without a carriage return before it. -/
def newline? : List Char → Option (List Char)
  | '\n' :: cs => some cs
  | '\r' :: '\n' :: cs => some cs
  | _ => none

/-- The text behind the blanks and the comment that may end a line, and the line feed. -/
def lineEnd? (cs : List Char) : Option (List Char) :=
  let cs := skipSpace cs
  let cs := if cs.head? = some '#' then cs.dropWhile isPrintable else cs
  if cs.isEmpty then some [] else newline? cs

/-- Skips blanks and line feeds.  A carriage return counts only before a line feed. -/
def skipBlanks : List Char → List Char
  | [] => []
  | c :: cs =>
    if isSpace c || c = '\n' then skipBlanks cs
    else if c = '\r' && cs.head? = some '\n' then skipBlanks cs
    else c :: cs

/-- Skips blanks, line feeds and comments. -/
def skipLines : (inComment : Bool) → List Char → List Char
  | _, [] => []
  | true, c :: cs =>
    if isPrintable c then skipLines true cs
    else if c = '\n' then skipLines false cs
    else if c = '\r' && cs.head? = some '\n' then skipLines false cs
    else c :: cs
  | false, c :: cs =>
    if isSpace c || c = '\n' then skipLines false cs
    else if c = '#' then skipLines true cs
    else if c = '\r' && cs.head? = some '\n' then skipLines false cs
    else c :: cs

/-! ### Texts -/

/-- The value of a digit of a base up to sixteen. -/
def digit? (base : Nat) (c : Char) : Option Nat :=
  let value :=
    if c.isDigit then c.toNat - '0'.toNat
    else if 'a' ≤ c ∧ c ≤ 'f' then c.toNat - 'a'.toNat + 10
    else if 'A' ≤ c ∧ c ≤ 'F' then c.toNat - 'A'.toNat + 10
    else base
  if value < base then some value else none

/-- The value of digits. -/
def number? (base : Nat) (digits : List Char) : Option Nat :=
  digits.foldlM (fun n c => (digit? base c).map (base * n + ·)) 0

/-- The character of a code point given by exactly `count` hexadecimal digits. -/
def codePoint? (count : Nat) (cs : List Char) : Option Char :=
  let digits := cs.take count
  if digits.length = count then
    (number? 16 digits).bind fun n => if n.isValidChar then some (Char.ofNat n) else none
  else none

/-- What the text behind a backslash stands for, and how many characters it takes. -/
def escape? : List Char → Option (Char × Nat)
  | 'b' :: _ => some ('\x08', 1)
  | 't' :: _ => some ('\t', 1)
  | 'n' :: _ => some ('\n', 1)
  | 'f' :: _ => some ('\x0c', 1)
  | 'r' :: _ => some ('\r', 1)
  | '"' :: _ => some ('"', 1)
  | '\\' :: _ => some ('\\', 1)
  | 'u' :: cs => (codePoint? 4 cs).map fun c => (c, 5)
  | 'U' :: cs => (codePoint? 8 cs).map fun c => (c, 9)
  | _ => none

/-- Reads a text on one line behind its opening quote. -/
def lineText? (quote : Char) (escapes : Bool) (seen : List Char) : Reader String
  | [] => none
  | c :: cs =>
    if c = quote then some (String.ofList seen.reverse, cs)
    else if escapes && c = '\\' then
      match escape? cs with
      | some (d, n) => lineText? quote escapes (d :: seen) (cs.drop n)
      | none => none
    else if isPrintable c then lineText? quote escapes (c :: seen) cs
    else none
termination_by cs => cs.length
decreasing_by all_goals (simp only [List.length_cons, List.length_drop]; omega)

/-- Reads a text over several lines behind its opening quotes.  Three quotes close it, with up to
two more before them that belong to it; a backslash at the end of a line skips to the next
character that is not blank. -/
def linesText? (quote : Char) (escapes : Bool) (seen : List Char) : Reader String
  | [] => none
  | c :: cs =>
    if c = quote then
      let more := (cs.take 4).takeWhile (· = quote)
      if 2 ≤ more.length then
        some (String.ofList (more.drop 2 ++ seen).reverse, cs.drop more.length)
      else linesText? quote escapes (c :: seen) cs
    else if escapes && c = '\\' then
      match newline? (skipSpace cs) with
      | some rest =>
        let next := skipBlanks rest
        if _shorter : next.length < cs.length + 1 then linesText? quote escapes seen next
        else none
      | none =>
        match escape? cs with
        | some (d, n) => linesText? quote escapes (d :: seen) (cs.drop n)
        | none => none
    else if c = '\n' then linesText? quote escapes (c :: seen) cs
    else if c = '\r' && cs.head? = some '\n' then linesText? quote escapes seen cs
    else if isPrintable c then linesText? quote escapes (c :: seen) cs
    else none
termination_by cs => cs.length
decreasing_by all_goals (simp only [List.length_cons, List.length_drop]; omega)

/-- Reads a text behind its first quote. -/
def quoted? (quote : Char) (escapes : Bool) (cs : List Char) : Option (String × List Char) :=
  if cs.take 2 = [quote, quote] then
    let cs := cs.drop 2
    linesText? quote escapes [] ((newline? cs).getD cs)
  else lineText? quote escapes [] cs

/-! ### Numbers and booleans -/

/-- Can stand in a number, a boolean or a date. -/
def isWordChar (c : Char) : Bool := c.isAlphanum || c == '_' || c == '+' || c == '-' || c == '.'

/-- The digits of a group, in which an underscore may stand between two digits. -/
def group? (base : Nat) : List Char → Option (List Char)
  | [] => none
  | [c] => (digit? base c).map fun _ => [c]
  | c :: '_' :: cs => do
    let _ ← digit? base c
    return c :: (← group? base cs)
  | c :: cs => do
    let _ ← digit? base c
    return c :: (← group? base cs)

/-- The digits of a decimal group that does not start with a needless zero. -/
def decimal? (cs : List Char) : Option (List Char) := do
  let digits ← group? 10 cs
  if 1 < digits.length && digits.head? = some '0' then none else some digits

/-- A sign, if there is one, and the text behind it. -/
def signed (cs : List Char) : Bool × List Char :=
  match cs with
  | '-' :: cs => (true, cs)
  | '+' :: cs => (false, cs)
  | cs => (false, cs)

/-- An integer of 64 bits. -/
def inRange? (n : Int) : Option Int :=
  if n.natAbs < Nat.pow 2 63 ∨ n = -(Nat.pow 2 63 : Nat) then some n else none

/-- Reads an integer. -/
def integer? (word : List Char) : Option Int :=
  let based (base : Nat) (cs : List Char) := (group? base cs).bind (number? base)
  match word with
  | '0' :: 'x' :: cs => (based 16 cs).bind fun n => inRange? n
  | '0' :: 'o' :: cs => (based 8 cs).bind fun n => inRange? n
  | '0' :: 'b' :: cs => (based 2 cs).bind fun n => inRange? n
  | _ => do
    let (negative, cs) := signed word
    let n ← (decimal? cs).bind (number? 10)
    inRange? (if negative then -(n : Int) else n)

/-- Reads the exponent behind its mark. -/
def exponent? (cs : List Char) : Option Int := do
  let (negative, cs) := signed cs
  let n ← (group? 10 cs).bind (number? 10)
  return if negative then -(n : Int) else n

/-- Reads a float.  One that is too large is refused, unless it is negative: that one is minus
infinity. -/
def float? (word : List Char) : Option Decimal.Binary := do
  let (negative, cs) := signed word
  if cs = "inf".toList then return .infinite negative
  if cs = "nan".toList then return .nan
  let isMark := fun c : Char => c == 'e' || c == 'E'
  let mantissa := cs.takeWhile fun c => !isMark c
  let exponent := cs.drop mantissa.length
  let whole := mantissa.takeWhile (· != '.')
  let fraction := mantissa.drop whole.length
  if exponent.isEmpty && fraction.isEmpty then none
  let whole ← decimal? whole
  let fraction ← if fraction.isEmpty then some [] else group? 10 fraction.tail
  let power ← if exponent.isEmpty then some 0 else exponent? exponent.tail
  let digits ← number? 10 (whole ++ fraction)
  let x := Decimal.Binary.ofDecimal Decimal.binary64 negative digits (power - fraction.length)
  if x = .infinite false then none else some x

/-- Reads a number or a boolean. -/
def word? (word : List Char) : Option Toml :=
  if word = "true".toList then some (.boolean true)
  else if word = "false".toList then some (.boolean false)
  else
    match integer? word with
    | some n => some (.integer n)
    | none => (float? word).map .float

/-! ### Dates and times -/

/-- The text behind the given character. -/
def behind? (c : Char) : List Char → Option (List Char)
  | [] => none
  | d :: cs => if d = c then some cs else none

/-- Reads a number of exactly `count` digits that lies within the bounds. -/
def digits? (count low high : Nat) (cs : List Char) : Option (Nat × List Char) := do
  let digits := cs.take count
  let n ← number? 10 digits
  if digits.length = count ∧ low ≤ n ∧ n ≤ high then some (n, cs.drop count) else none

/-- The number of days of a month. -/
def daysOf (year month : Nat) : Nat :=
  if month = 2 then
    if year % 4 = 0 ∧ (year % 100 ≠ 0 ∨ year % 400 = 0) then 29 else 28
  else if month = 4 ∨ month = 6 ∨ month = 9 ∨ month = 11 then 30
  else 31

/-- The text behind a day: year, month and day. -/
def afterDay? (cs : List Char) : Option (List Char) := do
  let (year, cs) ← digits? 4 0 9999 cs
  let (month, cs) ← digits? 2 1 12 (← behind? '-' cs)
  let (_, cs) ← digits? 2 1 (daysOf year month) (← behind? '-' cs)
  return cs

/-- The text behind a time of day: hour, minute, second and perhaps a fraction.  A minute may have
a leap second. -/
def afterTime? (cs : List Char) : Option (List Char) := do
  let (_, cs) ← digits? 2 0 23 cs
  let (_, cs) ← digits? 2 0 59 (← behind? ':' cs)
  let (_, cs) ← digits? 2 0 60 (← behind? ':' cs)
  match cs with
  | '.' :: c :: rest => return if c.isDigit then rest.dropWhile Char.isDigit else cs
  | _ => return cs

/-- The text behind a distance from universal time. -/
def afterOffset? : List Char → Option (List Char)
  | [] => none
  | c :: cs => do
    if c = 'Z' ∨ c = 'z' then return cs
    if c ≠ '+' ∧ c ≠ '-' then none
    let (_, cs) ← digits? 2 0 23 cs
    let (_, cs) ← digits? 2 0 59 (← behind? ':' cs)
    return cs

/-- The text behind a day, a time of day or both. -/
def afterDate? (cs : List Char) : Option (List Char) :=
  match afterDay? cs with
  | none => afterTime? cs
  | some [] => some []
  | some (c :: rest) =>
    if c = 'T' ∨ c = 't' ∨ c = ' ' then
      match afterTime? rest with
      | some rest => some ((afterOffset? rest).getD rest)
      | none => some (c :: rest)
    else some (c :: rest)

/-- Reads a date. -/
def date? (cs : List Char) : Option (String × List Char) :=
  (afterDate? cs).map fun rest => (String.ofList (cs.take (cs.length - rest.length)), rest)

/-! ### Keys, arrays and tables -/

/-- Can stand in a key without quotes. -/
def isBare (c : Char) : Bool := c.isAlphanum || c == '_' || c == '-'

/-- Reads one part of a key. -/
def keyPart? (cs : List Char) : Option (String × List Char) :=
  match cs with
  | '"' :: rest => lineText? '"' true [] rest
  | '\'' :: rest => lineText? '\'' false [] rest
  | _ =>
    let bare := cs.takeWhile isBare
    if bare.isEmpty then none else some (String.ofList bare, cs.drop bare.length)

/-- The number of arrays and tables that may stand inside each other, and of the parts of a key. -/
def maxDepth : Nat := 79

/-- Reads parts of a key with points between them. -/
def parts? (cs : List Char) : Option (List String × List Char) := do
  let (part, rest) ← keyPart? cs
  match skipSpace rest with
  | '.' :: rest =>
    let rest := skipSpace rest
    if rest.length < cs.length then
      let (parts, rest) ← parts? rest
      return (part :: parts, rest)
    else none
  | rest => return ([part], rest)
termination_by cs.length

/-- Reads a key. -/
def path? (cs : List Char) : Option (List String × List Char) := do
  let (path, rest) ← parts? cs
  if path.length ≤ maxDepth then return (path, rest) else none

/-- Reads a key, the equals sign and a value. -/
def keyValue? (value : Reader Toml) (cs : List Char) :
    Option ((List String × Toml) × List Char) := do
  let (path, rest) ← path? cs
  match skipSpace rest with
  | '=' :: rest =>
    let (v, rest) ← value (skipSpace rest)
    return ((path, v), rest)
  | _ => none

/-- Reads the items of an array up to its closing bracket. -/
def items? (value : Reader Toml) (cs : List Char) : Option (List Toml × List Char) := do
  match skipLines false cs with
  | ']' :: rest => return ([], rest)
  | start =>
    let (v, rest) ← value start
    match skipLines false rest with
    | ']' :: rest => return ([v], rest)
    | ',' :: rest =>
      if rest.length < cs.length then
        let (vs, rest) ← items? value rest
        return (v :: vs, rest)
      else none
    | _ => none
termination_by cs.length

/-- Reads the entries of a table up to its closing brace. -/
def entries? (value : Reader Toml) (cs : List Char) :
    Option (List (List String × Toml) × List Char) := do
  let (entry, rest) ← keyValue? value (skipSpace cs)
  match skipSpace rest with
  | '}' :: rest => return ([entry], rest)
  | ',' :: rest =>
    if rest.length < cs.length then
      let (entries, rest) ← entries? value rest
      return (entry :: entries, rest)
    else none
  | _ => none
termination_by cs.length

/-- No path leads to or through the end of another one, so each has room for a value. -/
def areApart : List (List String) → Bool
  | [] => true
  | p :: ps => (ps.all fun q => !(p.isPrefixOf q || q.isPrefixOf p)) && areApart ps

/-- The table of these entries. -/
def table? (entries : List (List String × Toml)) : Option Toml :=
  if areApart (entries.map (·.1)) then some (.table entries) else none

/-- Reads a value that may hold arrays and tables to the given depth. -/
def value? (depth : Nat) (cs : List Char) : Option (Toml × List Char) :=
  match depth, cs with
  | _, '"' :: cs => (quoted? '"' true cs).map fun r => (.text r.1, r.2)
  | _, '\'' :: cs => (quoted? '\'' false cs).map fun r => (.text r.1, r.2)
  | 0, '[' :: _ => none
  | depth + 1, '[' :: cs => (items? (value? depth) cs).map fun r => (.array r.1, r.2)
  | 0, '{' :: _ => none
  | depth + 1, '{' :: cs =>
    match skipSpace cs with
    | '}' :: rest => some (.table [], rest)
    | _ => do
      let (entries, rest) ← entries? (value? depth) cs
      return (← table? entries, rest)
  | _, cs =>
    match date? cs with
    | some (written, rest) => some (.date written, rest)
    | none =>
      let word := cs.takeWhile isWordChar
      (word? word).map fun v => (v, cs.drop word.length)

/-! ### Lines -/

/-- Reads the path of a header up to its closing brackets. -/
def header? (inList : Bool) (cs : List Char) : Option (Line × List Char) := do
  let (path, rest) ← path? (skipSpace cs)
  match inList, skipSpace rest with
  | false, ']' :: rest => return (.header path false, rest)
  | true, ']' :: ']' :: rest => return (.header path true, rest)
  | _, _ => none

/-- Reads a line, and the line feed that ends it. -/
def line? (cs : List Char) : Option (Option Line × List Char) :=
  match lineEnd? cs with
  | some rest => some (none, rest)
  | none => do
    let (line, rest) ← match skipSpace cs with
      | '[' :: '[' :: rest => header? true rest
      | '[' :: rest => header? false rest
      | rest => (keyValue? (value? maxDepth) rest).map fun r => (.entry r.1.1 r.1.2, r.2)
    let rest ← lineEnd? rest
    return (some line, rest)

/-- Reads the lines of a text. -/
def lines? (cs : List Char) : Option (List Line) := do
  if cs.isEmpty then return []
  let (line, rest) ← line? cs
  if rest.length < cs.length then return line.toList ++ (← lines? rest) else none
termination_by cs.length

/-- Reads a text, which may start with a byte order mark. -/
def read? (s : String) : Option (List Line) :=
  match s.toList with
  | '\uFEFF' :: cs => lines? cs
  | cs => lines? cs

end Toml
end CodeDiagram
