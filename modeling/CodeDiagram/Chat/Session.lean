/-
# A series of requests

Section 5 of `SPEC_FULL.md`: requests share nothing but what the caller gives
them.

A session makes requests one after the other.  They share the credentials and
one token, with which they are cancelled: a cancelled token stays cancelled
until a new one takes its place.
-/

import CodeDiagram.Chat.Gateway

namespace CodeDiagram
namespace Chat

/-- A request and the reply that the service will give. -/
structure Request where
  kind : Kind
  code : String
  options : Options
  reply : Reply

/-- What happens in a session. -/
inductive Event where
  | cancel
  | newToken
  | credentials (present : Bool)
  | plan (request : Request)
  | diagram (request : Request)

/-- What later requests depend on, and the calls made so far. -/
structure Session where
  credentials : Bool
  cancelled : Bool
  /-- The calls, the latest first. -/
  calls : List Call

namespace Session

/-- Before the first event. -/
def start : Session := ⟨true, false, []⟩

/-- The session after a request. -/
def after (s : Session) (outcome : Outcome) : Session :=
  { s with cancelled := outcome.cancelled, calls := outcome.call.toList ++ s.calls }

/-- What a request leads to. -/
def outcome (s : Session) : Event → Option Outcome
  | .plan r =>
    some (Id.run (requestPlan s.credentials s.cancelled r.kind r.code r.options fun _ =>
      pure r.reply))
  | .diagram r =>
    some (Id.run (requestDiagram s.credentials s.cancelled r.kind r.code r.options fun _ =>
      pure r.reply))
  | _ => none

/-- The session after an event. -/
def step (s : Session) (event : Event) : Session :=
  match event with
  | .cancel => { s with cancelled := true }
  | .newToken => { s with cancelled := false }
  | .credentials present => { s with credentials := present }
  | _ => (s.outcome event).elim s s.after

/-- The session and the outcome after each event. -/
def trace (s : Session) : List Event → List (Session × Option Outcome)
  | [] => []
  | event :: events => (s.step event, s.outcome event) :: (s.step event).trace events

end Session
end Chat
end CodeDiagram
