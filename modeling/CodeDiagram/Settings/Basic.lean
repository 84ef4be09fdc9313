/-
# Settings of the chat service

Sections 6 and 10.3 of `SPEC_FULL.md`, `LlmConfig`.

| setting | default |
| --- | --- |
| base address | `https://api.groq.com/openai/v1` |
| key | none |
| model | `llama-3.3-70b-versatile` |
| temperature, in single precision | `0.2` |
| greatest number of tokens in an answer | `4096` |
| demand a JSON object as the answer | yes |

A key that is blank counts as none.  Calls go to the base address, without
slashes at its end, followed by `/chat/completions`.
-/

import CodeDiagram.Decimal.Rounding
import CodeDiagram.Text.Blank
import CodeDiagram.Text.Search

namespace CodeDiagram

/-- How the chat service is called. -/
structure Settings where
  baseUrl : String
  apiKey : Option String
  model : String
  temperature : Option Decimal.Binary
  maxTokens : Option Nat
  jsonMode : Bool
  deriving DecidableEq, Repr

namespace Settings

/-- The settings where nothing is said. -/
def default : Settings :=
  { baseUrl := "https://api.groq.com/openai/v1"
    apiKey := none
    model := "llama-3.3-70b-versatile"
    temperature := some (.ofDecimal Decimal.binary32 false 2 (-1))
    maxTokens := some 4096
    jsonMode := true }

/-- The key, if it is not blank. -/
def usableKey? (s : Settings) : Option String := s.apiKey.filter fun key => !Text.isBlankText key

/-- What stands behind the base address in the address of a call. -/
def callPath : String := "/chat/completions"

/-- Without the slashes at its end. -/
def withoutSlashes (cs : List Char) : List Char := Text.dropTailWhile (· == '/') cs

/-- The address that calls go to. -/
def callUrl (s : Settings) : String :=
  String.ofList (withoutSlashes s.baseUrl.toList) ++ callPath

end Settings
end CodeDiagram
