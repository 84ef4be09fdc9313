/-
# The section of a settings file

Section 10.3 of `SPEC_FULL.md`, the optional file with an `[llm]` section.

The reader that comes along (`Section.ofText?`) takes a settings file that has
one table, `llm`, in one of these forms:

| form | lines |
| --- | --- |
| header | `[llm]`, then `model = "m"` and so on |
| points | `llm.model = "m"` and so on |
| inline | `llm = { model = "m" }` |
| by order | `llm = ["http://h", "key", "m"]`, in the order of the settings |

Each setting is given at most once.  A temperature may be written as an
integer.  Values by order that come after the last setting say nothing.  A file
that says anything else is refused.
-/

import CodeDiagram.Settings.Basic
import CodeDiagram.Settings.Toml

namespace CodeDiagram
namespace Settings

/-- What a file says about the settings. -/
structure Section where
  endpoint : Option String
  apiKey : Option String
  model : Option String
  temperature : Option Decimal.Binary
  maxTokens : Option Nat
  jsonMode : Option Bool
  deriving DecidableEq, Repr

namespace Section

/-- A section that says nothing. -/
def empty : Section := ⟨none, none, none, none, none, none⟩

/-- Gives an unset field its value. -/
def fill {α : Type} (old value : Option α) : Option (Option α) :=
  if old.isSome || value.isNone then none else some value

/-- A temperature, rounded to single precision. -/
def temperature? : Toml → Option Decimal.Binary
  | .integer n => some (.ofFraction Decimal.binary32 (n < 0) ⟨n.natAbs, 1⟩)
  | .float x => some (x.convert Decimal.binary32)
  | _ => none

/-- A count of 32 bits. -/
def count? : Toml → Option Nat
  | .integer n => if 0 ≤ n ∧ n.toNat < Nat.pow 2 32 then some n.toNat else none
  | _ => none

/-- Gives a setting its value.  Refuses an unknown name, a value of the wrong type and a setting
that has its value already. -/
def put? (s : Section) (name : String) (value : Toml) : Option Section :=
  match name with
  | "endpoint" => (fill s.endpoint value.text?).map fun v => { s with endpoint := v }
  | "api_key" => (fill s.apiKey value.text?).map fun v => { s with apiKey := v }
  | "model" => (fill s.model value.text?).map fun v => { s with model := v }
  | "temperature" =>
    (fill s.temperature (temperature? value)).map fun v => { s with temperature := v }
  | "max_tokens" => (fill s.maxTokens (count? value)).map fun v => { s with maxTokens := v }
  | "json_mode" => (fill s.jsonMode value.boolean?).map fun v => { s with jsonMode := v }
  | _ => none

/-- The names of the settings, in order. -/
def names : List String :=
  ["endpoint", "api_key", "model", "temperature", "max_tokens", "json_mode"]

/-- The name and the value in an entry of the section. -/
def inTable? : List String × Toml → Option (String × Toml)
  | ([name], value) => some (name, value)
  | _ => none

/-- The name and the value in a line under the header. -/
def underHeader? : Toml.Line → Option (String × Toml)
  | .entry [name] value => some (name, value)
  | _ => none

/-- The name and the value in a line without a header. -/
def withPoint? : Toml.Line → Option (String × Toml)
  | .entry ["llm", name] value => some (name, value)
  | _ => none

/-- What the lines of a file give a value to. -/
def given? : List Toml.Line → Option (List (String × Toml))
  | [.entry ["llm"] (.table entries)] => entries.mapM inTable?
  | [.entry ["llm"] (.array items)] => some (names.zip items)
  | .header ["llm"] false :: lines => lines.mapM underHeader?
  | lines => lines.mapM withPoint?

/-- The section in the text of a file. -/
def ofText? (text : String) : Option Section := do
  let lines ← Toml.read? text
  let given ← given? lines
  given.foldlM (fun s entry => s.put? entry.1 entry.2) empty

end Section
end Settings
end CodeDiagram
