/-
# Messages and answers of a chat service

The wire format of section 6 of `SPEC_FULL.md`.

A call sends messages; an answer brings choices, each with a message, and may
count the tokens used.  The text of an answer is a JSON object:

| object | fields |
| --- | --- |
| answer | `id`?, `choices`, `usage`?? |
| choice | `index`, `message`, `finish_reason`?? |
| message | `role`, `content`?? |
| usage | `prompt_tokens`, `completion_tokens`, `total_tokens` |

A field marked `?` may be absent, one marked `??` may also be null.  No field
of the table may stand twice in its object; other fields are skipped.

An array may take the place of an object: it holds the values of the fields in
the order of the table, and nothing else.  There only the content of a message
may be absent.
-/

import CodeDiagram.Json.Reader
import CodeDiagram.Text.Blank

namespace CodeDiagram

open Json (Fields)

namespace Chat

/-- One message of a conversation. -/
structure Message where
  role : String
  content : Option String
  deriving DecidableEq, Repr

namespace Message

/-- What the service is told to do. -/
def system (content : String) : Message := ⟨"system", some content⟩

/-- What it is given to do it with. -/
def user (content : String) : Message := ⟨"user", some content⟩

/-- The content, if it is not blank. -/
def text? (m : Message) : Option String := m.content.filter fun s => !Text.isBlankText s

end Message

/-- One of the alternatives in an answer. -/
structure Choice where
  index : Nat
  message : Message
  finishReason : Option String
  deriving DecidableEq, Repr

/-- The tokens that an exchange used. -/
structure Usage where
  prompt : Nat
  completion : Nat
  total : Nat
  deriving DecidableEq, Repr

/-- The answer of a chat service. -/
structure Answer where
  id : String
  choices : List Choice
  usage : Option Usage
  deriving DecidableEq, Repr

namespace Answer

/-- The value of a field that stands at most once; `none` if it stands twice. -/
def single? (name : String) (fields : Fields) : Option (Option Json) :=
  match fields.filter fun field => field.1 == name with
  | [] => some none
  | [field] => some (some field.2)
  | _ => none

/-- The value of a field that stands exactly once. -/
def required? (name : String) (fields : Fields) : Option Json := (single? name fields).join

/-- The value of a field that may be absent or null. -/
def nullable? {α : Type} (read : Json → Option α) (name : String) (fields : Fields) :
    Option (Option α) := do
  match ← single? name fields with
  | none => return none
  | some .null => return none
  | some value => return some (← read value)

/-- A count of 32 bits, written as an integer. -/
def count? : Json → Option Nat
  | .number (.integer n) => if 0 ≤ n ∧ n.toNat < Nat.pow 2 32 then some n.toNat else none
  | _ => none

/-- The fields of an object, or of an array with the values of these fields, at least so many. -/
def layout? (least : Nat) (names : List String) : Json → Option Fields
  | .object fields => some fields
  | .array values =>
    if least ≤ values.length ∧ values.length ≤ names.length then some (names.zip values) else none
  | _ => none

/-- Reads a message. -/
def message? (value : Json) : Option Message := do
  let fields ← layout? 1 ["role", "content"] value
  let role ← (← required? "role" fields).text?
  let content ← nullable? Json.text? "content" fields
  return { role, content }

/-- Reads a choice. -/
def choice? (value : Json) : Option Choice := do
  let fields ← layout? 3 ["index", "message", "finish_reason"] value
  let index ← count? (← required? "index" fields)
  let message ← message? (← required? "message" fields)
  let finishReason ← nullable? Json.text? "finish_reason" fields
  return { index, message, finishReason }

/-- Reads a count of tokens. -/
def usage? (value : Json) : Option Usage := do
  let fields ← layout? 3 ["prompt_tokens", "completion_tokens", "total_tokens"] value
  let prompt ← count? (← required? "prompt_tokens" fields)
  let completion ← count? (← required? "completion_tokens" fields)
  let total ← count? (← required? "total_tokens" fields)
  return { prompt, completion, total }

/-- Reads an answer from a value. -/
def ofJson? (value : Json) : Option Answer := do
  let fields ← layout? 3 ["id", "choices", "usage"] value
  let id ← match ← single? "id" fields with
    | none => pure ""
    | some id => id.text?
  let choices ← (← (← required? "choices" fields).items?).mapM choice?
  let usage ← nullable? usage? "usage" fields
  return { id, choices, usage }

/-- Reads an answer from a text. -/
def ofText? (text : String) : Option Answer := (Json.skim text).toOption.bind ofJson?

end Answer
end Chat
end CodeDiagram
