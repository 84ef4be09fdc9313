/-
# The JSON text inside an answer

Section 4.1 of `SPEC_FULL.md`, where the response may wrap its JSON.

An answer should be a JSON text, but may wrap it in a fence or in prose.  The
text is looked for in this order:

1. an answer that starts with `{` or `[` is the text as a whole;
2. a block fenced as `json`;
3. any fenced block, without the letters and digits that name its language;
4. from the first `{` to the last `}` behind it.

A fence that is not closed is no block.  A block that is blank ends the search.
-/

import CodeDiagram.Chat.Prompt
import CodeDiagram.Text.Blank

namespace CodeDiagram
namespace Chat

/-- The text between the first `opening` and the next fence behind it. -/
def block? (opening text : List Char) : Option (List Char) := do
  let parts ← Text.cut opening text
  let inner ← Text.cut fence.toList parts.2
  return inner.1

/-- The text without blanks at its ends, unless nothing is left. -/
def nonBlank? (text : List Char) : Option (List Char) :=
  let trimmed := Text.trimChars text
  if trimmed.isEmpty then none else some trimmed

/-- From the first `{` to the last `}`, if they stand in that order. -/
def embedded? (text : List Char) : Option (List Char) :=
  let inner := Text.dropTailWhile (· != '}') (text.dropWhile (· != '{'))
  if inner.isEmpty then none else some inner

/-- Starts an object or an array. -/
def opensJson (text : List Char) : Bool := text.head?.any fun c => c == '{' || c == '['

/-- The JSON text inside an answer, on characters. -/
def extractChars? (answer : List Char) : Option (List Char) :=
  let text := Text.trimChars answer
  if opensJson text then some text
  else
    match block? (fence ++ "json").toList text with
    | some inner => nonBlank? inner
    | none =>
      match block? fence.toList text with
      | some inner => nonBlank? (inner.dropWhile Char.isAlphanum)
      | none => embedded? text

/-- The JSON text inside an answer. -/
def extract? (answer : String) : Option String :=
  (extractChars? answer.toList).map String.ofList

end Chat
end CodeDiagram
