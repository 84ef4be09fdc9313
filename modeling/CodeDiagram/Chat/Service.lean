/-
# Calling the chat service

Sections 4.1 (outcomes) and 6 (wire format) of `SPEC_FULL.md`.

A call is posted as a JSON object to the address of the settings:

| field | value |
| --- | --- |
| `model` | the model |
| `messages` | role and content of each message |
| `response_format` | `{"type": "json_object"}`, if a JSON object is demanded |
| `temperature`, `max_tokens` | if they are set |

A usable key goes along as a bearer token.  Whether such a request can be sent,
and what answer stands in a body, is up to the client (`Client`), which may be
any.

| exchange | result |
| --- | --- |
| none, or dropped before the status | cannot be reached |
| 401, 403 | the key is rejected, whatever the body says |
| not 2xx | the body, word by word, or nothing if it breaks off |
| 2xx | the answer in the body |
| 2xx, a body that breaks off or holds no answer | cannot be decoded |
-/

import CodeDiagram.Chat.Gateway
import CodeDiagram.Chat.Status
import CodeDiagram.Json.Printer
import CodeDiagram.Settings.Basic

namespace CodeDiagram
namespace Chat

/-- A request to the service. -/
structure Post where
  url : String
  /-- The key that goes along. -/
  key : Option String
  body : Json

/-- How an exchange with the service ends, as the client hands it over.  If the service answers,
there is a status, and behind it a body or the reason why it breaks off. -/
inductive Exchange where
  | answered (status : Nat) (body : Except Causes String)
  | failed (causes : Causes)

/-- The client that sends requests and receives answers. -/
structure Client where
  /-- Why a request cannot be sent, if it cannot. -/
  refusal? : Post → Option Causes
  /-- The answer in a body, or why there is none. -/
  decode : String → Except Causes Answer

/-- What a key is sent as. -/
def bearer (key : String) : String := "Bearer " ++ key

/-- The value of a message. -/
def Message.json (m : Message) : Json :=
  .object ([("role", .string m.role)] ++ m.content.toList.map fun s => ("content", .string s))

/-- The value that demands a JSON object. -/
def objectFormat : Json := .object [("type", .string "json_object")]

/-- The body of a call. -/
def Call.body (call : Call) (s : Settings) : Json :=
  .object
    ([("model", .string s.model), ("messages", .array (call.messages.map Message.json))] ++
      (if call.jsonMode then [("response_format", objectFormat)] else []) ++
      (s.temperature.toList.map fun t => ("temperature", .ofBinary Decimal.binary32 t)) ++
      s.maxTokens.toList.map fun n => ("max_tokens", .number (.integer n)))

/-- The request of a call. -/
def Call.request (call : Call) (s : Settings) : Post := ⟨s.callUrl, s.usableKey?, call.body s⟩

/-- The outermost cause where the service is not reached. -/
def unreachable : String := "Failed to reach the AI service; check your network connection"

/-- The outermost cause where an answer cannot be decoded. -/
def undecoded : String := "Failed to decode the AI service response"

/-- The request of a call, or why the client cannot send it. -/
def Call.post (client : Client) (call : Call) (s : Settings) : Except Causes Post :=
  match client.refusal? (call.request s) with
  | some causes => .error (unreachable :: causes)
  | none => .ok (call.request s)

/-- What an exchange says to the client. -/
def Exchange.answer (client : Client) : Exchange → Except Causes Answer
  | .failed causes => .error (unreachable :: causes)
  | .answered status body =>
    if Status.rejectsKey status then
      .error ["The AI service rejected the API key (" ++ Status.text status ++
        "); it is missing or invalid"]
    else if !Status.isSuccess status then
      .error ["AI request failed (" ++ Status.text status ++ "): " ++ body.toOption.getD ""]
    else (body.bind client.decode).mapError (undecoded :: ·)

/-- Makes a call of a service that treats requests as `exchange` does. -/
def Call.answer {m : Type → Type} [Monad m] (client : Client) (call : Call) (s : Settings)
    (exchange : Post → m Exchange) : m (Except Causes Answer) :=
  match call.post client s with
  | .error causes => pure (.error causes)
  | .ok post => do return (← exchange post).answer client

end Chat
end CodeDiagram
