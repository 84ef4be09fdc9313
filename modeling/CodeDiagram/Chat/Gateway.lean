/-
# Asking for a plan

Section 4.1 of `SPEC_FULL.md`, the functions `generate_plan` and
`generate_diagram`.

One call of the chat service asks for the plan of one diagram.  The call is
made only if there are credentials and the request is not cancelled yet; while
the service is silent the request can still be cancelled.

| situation | result |
| --- | --- |
| no credentials | the failure `api` |
| cancelled before the call, or before the service answers | nothing |
| the service fails | the failure `api`, with the whole chain of causes |
| no choice, or the first choice has no text | the failure `parsing` |
| no JSON text in it | the failure `parsing` |
| otherwise | the JSON text, or the diagram made of it |
-/

import CodeDiagram.Chat.Answer
import CodeDiagram.Chat.Extract
import CodeDiagram.Pipeline

namespace CodeDiagram
namespace Chat

/-- What a call asks for besides the code. -/
structure Options where
  /-- Replaces the built-in system message. -/
  template : Option String
  /-- Demand a JSON object as the answer. -/
  jsonMode : Bool
  deriving DecidableEq, Repr

/-- A call of the chat service. -/
structure Call where
  messages : List Message
  jsonMode : Bool
  deriving DecidableEq, Repr

/-- The call that asks for the plan of some code. -/
def Call.forPlan (kind : Kind) (code : String) (options : Options) : Call :=
  { messages :=
      [.system (options.template.getD kind.instruction), .user (userMessage code)]
    jsonMode := options.jsonMode }

/-- Why a service did not answer: the causes, the outermost first. -/
abbrev Causes := List String

/-- The causes on one line. -/
def Causes.text (causes : Causes) : String := ": ".intercalate causes

/-- How a call ends. -/
inductive Reply where
  /-- The service answers or fails.  The request may have been cancelled meanwhile, but what the
  service says is still heard. -/
  | heard (cancels : Bool) (answer : Except Causes Answer)
  /-- The service stays silent until the request is cancelled. -/
  | cancelledWaiting

/-- The wording where credentials are missing. -/
def missingCredentials : Failure :=
  .api "API key not found. Please set it in the configuration."

/-- The wording where there is no text. -/
def emptyAnswer : Failure := .parsing "The AI returned an empty response."

/-- The wording where the text holds no JSON. -/
def noJson : Failure :=
  .parsing "The AI response did not contain any JSON. Please try again."

/-- The JSON text of what the service says.  Only the first choice counts. -/
def planText (answer : Except Causes Answer) : Except Failure String :=
  match answer with
  | .error causes => .error (.api causes.text)
  | .ok answer =>
    match answer.choices.head?.bind fun choice => choice.message.text? with
    | none => .error emptyAnswer
    | some text =>
      match extract? text with
      | none => .error noJson
      | some json => .ok json

/-- How a request ends, and the call that it made. -/
structure Outcome where
  /-- The call, if one was made. -/
  call : Option Call
  /-- The request is cancelled in the end. -/
  cancelled : Bool
  /-- The text, or nothing if the request was cancelled. -/
  result : Except Failure (Option String)

/-- How a request ends once its call is replied to. -/
def Outcome.ofReply (call : Call) : Reply → Outcome
  | .cancelledWaiting => ⟨some call, true, .ok none⟩
  | .heard cancels answer => ⟨some call, cancels, (planText answer).map some⟩

/-- Asks for the plan of some code.  `reply` makes the call. -/
def requestPlan {m : Type → Type} [Monad m] (credentials cancelled : Bool) (kind : Kind)
    (code : String) (options : Options) (reply : Call → m Reply) : m Outcome :=
  if !credentials then pure ⟨none, cancelled, .error missingCredentials⟩
  else if cancelled then pure ⟨none, true, .ok none⟩
  else
    let call := Call.forPlan kind code options
    return .ofReply call (← reply call)

/-- Makes the diagram of the plan that a request ends with. -/
def Outcome.diagram (kind : Kind) (outcome : Outcome) : Outcome :=
  { outcome with
    result :=
      match outcome.result with
      | .ok (some json) => (diagramOfText kind json).map some
      | other => other }

/-- Asks for the diagram of some code.  Once the plan is there it is made to the end. -/
def requestDiagram {m : Type → Type} [Monad m] (credentials cancelled : Bool) (kind : Kind)
    (code : String) (options : Options) (reply : Call → m Reply) : m Outcome :=
  return (← requestPlan credentials cancelled kind code options reply).diagram kind

end Chat
end CodeDiagram
