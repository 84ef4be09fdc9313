/-
# The account of a session

Which requests of a session reach the service is read off its events:

* the credentials are what the last change made of them (`credentialsAfter`);
* the token is cancelled if since it came there was a cancellation, or a
  request made with credentials whose reply cancels (`CancelledBy`);
* a request is asked if it finds credentials and a token that is not cancelled
  (`IsOpen`, `asked`).

One event leads from flags of this kind to flags of this kind and adds the call
of a request that is asked (`Session.credentials_step`, `Session.cancelled_step`,
`Session.calls_step`), so by induction on the events a session keeps exactly
this account (`Session.credentials_run`, `Session.cancelled_run_iff`,
`Session.calls_run`).
-/

import CodeDiagram.Chat.Service
import CodeDiagram.Chat.Session
import Mathlib.Data.List.Basic
import Mathlib.Data.List.Induction

namespace CodeDiagram

open Json (Fields)

namespace Chat

variable {event : Event} {events : List Event} {request : Request}

/-! ### Events and what they ask for -/

/-- The request that an event makes. -/
def Event.request? : Event → Option Request
  | .plan request => some request
  | .diagram request => some request
  | _ => none

/-- What an event makes of the credentials. -/
def Event.credentials? : Event → Option Bool
  | .credentials present => some present
  | _ => none

/-- The reply cancels the request. -/
def Reply.cancels : Reply → Bool
  | .heard cancels _ => cancels
  | .cancelledWaiting => true

/-- The event cancels a token that is not cancelled yet, if there are credentials or not. -/
def Event.cancels (credentials : Bool) : Event → Bool
  | .cancel => true
  | .plan request => credentials && request.reply.cancels
  | .diagram request => credentials && request.reply.cancels
  | _ => false

/-- The call of a request. -/
def Request.call (request : Request) : Call := .forPlan request.kind request.code request.options

/-- The call carries a request and nothing else: the template or else the built-in instruction,
the code, and the demand for a JSON object if there is one. -/
structure Carries (call : Call) (request : Request) : Prop where
  messages : call.messages =
    [⟨"system", some (request.options.template.getD request.kind.instruction)⟩,
      ⟨"user", some (userMessage request.code)⟩]
  format : ∀ settings, (call.body settings).fields?.bind (Fields.get? "response_format") =
    if request.options.jsonMode then some (.object [("type", .string "json_object")]) else none

theorem Request.call_carries (request : Request) : Carries request.call request where
  messages := rfl
  format settings := by
    have hrest : Fields.get? "response_format"
        ((settings.temperature.toList.map fun t =>
            ("temperature", Json.ofBinary Decimal.binary32 t)) ++
          settings.maxTokens.toList.map fun n => ("max_tokens", .number (.integer n))) = none := by
      cases settings.temperature <;> cases settings.maxTokens <;> rfl
    rw [Call.body, Request.call, Call.forPlan]
    cases request.options.jsonMode with
    | true => rfl
    | false => exact hrest

/-! ### The account -/

/-- The credentials after some events: what the last change made of them.  They are there at
first. -/
def credentialsAfter (events : List Event) : Bool :=
  (events.filterMap Event.credentials?).getLast?.getD true

/-- The token that is there after some events is cancelled: since it came an event cancelled it. -/
def CancelledBy (events : List Event) : Prop :=
  ∃ before event after, events = before ++ event :: after ∧
    event.cancels (credentialsAfter before) = true ∧ Event.newToken ∉ after

theorem credentialsAfter_concat (events : List Event) (event : Event) :
    credentialsAfter (events ++ [event]) = event.credentials?.getD (credentialsAfter events) := by
  rw [credentialsAfter, List.filterMap_append]
  cases hchange : event.credentials? with
  | none =>
      rw [List.filterMap_cons_none hchange, List.filterMap_nil, List.append_nil]
      rfl
  | some present =>
      rw [List.filterMap_cons_some hchange, List.filterMap_nil, List.getLast?_concat]
      rfl

theorem cancelledBy_concat : CancelledBy (events ++ [event]) ↔
    event.cancels (credentialsAfter events) = true ∨ CancelledBy events ∧ event ≠ .newToken := by
  constructor
  · rintro ⟨before, cancelling, after, hsplit, hcancels, htoken⟩
    rcases List.eq_nil_or_concat after with rfl | ⟨after, last, rfl⟩
    · obtain ⟨rfl, hlast⟩ := List.append_inj' hsplit rfl
      obtain rfl := List.singleton_inj.1 hlast
      exact .inl hcancels
    · rw [List.concat_eq_append, ← List.cons_append, ← List.append_assoc] at hsplit
      obtain ⟨rfl, hlast⟩ := List.append_inj' hsplit rfl
      obtain rfl := List.singleton_inj.1 hlast
      rw [List.concat_eq_append, List.mem_append, List.mem_singleton, not_or] at htoken
      exact .inr ⟨⟨before, cancelling, after, rfl, hcancels, htoken.1⟩, Ne.symm htoken.2⟩
  · rintro (hcancels | ⟨⟨before, cancelling, after, rfl, hcancels, htoken⟩, hne⟩)
    · exact ⟨events, event, [], rfl, hcancels, List.not_mem_nil⟩
    · refine ⟨before, cancelling, after ++ [event], by simp, hcancels, ?_⟩
      rw [List.mem_append, List.mem_singleton, not_or]
      exact ⟨htoken, Ne.symm hne⟩

namespace Session

/-- The session after some events. -/
def run (s : Session) (events : List Event) : Session := events.foldl step s

theorem run_concat (s : Session) (events : List Event) (event : Event) :
    s.run (events ++ [event]) = (s.run events).step event :=
  List.foldl_append

/-! ### One event -/

/-- A request makes its call if it finds credentials and a token that is not cancelled, and leaves
the token cancelled if it was or if the reply to the call cancels it. -/
theorem requestPlan_call (credentials cancelled : Bool) (request : Request) :
    let outcome := requestPlan (m := Id) credentials cancelled request.kind request.code
      request.options fun _ => request.reply
    outcome.call = (if credentials && !cancelled then some request.call else none) ∧
      outcome.cancelled = (credentials && request.reply.cancels || cancelled) := by
  obtain ⟨kind, code, options, reply⟩ := request
  cases credentials with
  | false => exact ⟨rfl, rfl⟩
  | true =>
      cases cancelled with
      | true => exact ⟨rfl, (Bool.or_true _).symm⟩
      | false => cases reply <;> exact ⟨rfl, (Bool.or_false _).symm⟩

/-- What a request leads to.  Whether it is for a plan or for a diagram makes no difference to its
call. -/
theorem outcome_of_request (s : Session) (h : event.request? = some request) :
    ∃ outcome, s.outcome event = some outcome ∧
      outcome.call = (if s.credentials && !s.cancelled then some request.call else none) ∧
      outcome.cancelled = (s.credentials && request.reply.cancels || s.cancelled) := by
  cases event with
  | plan request =>
      obtain rfl := Option.some.inj h
      exact ⟨_, rfl, requestPlan_call ..⟩
  | diagram request =>
      obtain rfl := Option.some.inj h
      exact ⟨_, rfl, requestPlan_call s.credentials s.cancelled request⟩
  | _ => cases h

theorem step_of_request (s : Session) (h : event.request? = some request) :
    s.step event =
      { s with
        cancelled := s.credentials && request.reply.cancels || s.cancelled
        calls := (if s.credentials && !s.cancelled then [request.call] else []) ++ s.calls } := by
  obtain ⟨outcome, houtcome, hcall, hcancelled⟩ := outcome_of_request s h
  have hstep : s.step event = s.after outcome := by
    cases event with
    | plan request => exact congrArg (Option.elim · s s.after) houtcome
    | diagram request => exact congrArg (Option.elim · s s.after) houtcome
    | _ => cases h
  rw [hstep, after, hcall, hcancelled]
  split <;> rfl

theorem credentials_step (s : Session) (event : Event) :
    (s.step event).credentials = event.credentials?.getD s.credentials := by
  cases event with
  | plan request => rw [step_of_request s rfl]; rfl
  | diagram request => rw [step_of_request s rfl]; rfl
  | _ => rfl

/-- **A token once cancelled stays cancelled until a new one comes.** -/
theorem cancelled_step (s : Session) (event : Event) : (s.step event).cancelled = true ↔
    event.cancels s.credentials = true ∨ s.cancelled = true ∧ event ≠ .newToken := by
  cases event with
  | plan request =>
      rw [step_of_request s rfl, Bool.or_eq_true]
      exact or_congr_right (and_iff_left nofun).symm
  | diagram request =>
      rw [step_of_request s rfl, Bool.or_eq_true]
      exact or_congr_right (and_iff_left nofun).symm
  | cancel => exact iff_of_true rfl (.inl rfl)
  | newToken =>
      refine iff_of_false nofun ?_
      rintro (h | ⟨-, h⟩)
      · cases h
      · exact h rfl
  | credentials present =>
      constructor
      · exact fun h => .inr ⟨h, nofun⟩
      · rintro (h | ⟨h, -⟩)
        · cases h
        · exact h

/-- **One event adds the call of a request that is asked**, and no other call. -/
theorem calls_step (s : Session) (event : Event) :
    (s.step event).calls =
      ((if s.credentials && !s.cancelled then event.request?.toList else []).map Request.call) ++
        s.calls := by
  cases hrequest : event.request? with
  | some request =>
      rw [step_of_request s hrequest]
      split <;> rfl
  | none =>
      rw [Option.toList_none, ite_self]
      cases event with
      | plan request => cases hrequest
      | diagram request => cases hrequest
      | _ => rfl

/-! ### A series of events -/

/-- **The credentials of a session are what the last change made of them.** -/
theorem credentials_run (events : List Event) :
    (start.run events).credentials = credentialsAfter events := by
  induction events using List.reverseRecOn with
  | nil => rfl
  | append_singleton events event ih =>
      rw [run_concat, credentials_step, ih, credentialsAfter_concat]

/-- **The token of a session is cancelled by what happened since it came.** -/
theorem cancelled_run_iff (events : List Event) :
    (start.run events).cancelled = true ↔ CancelledBy events := by
  induction events using List.reverseRecOn with
  | nil =>
      refine iff_of_false nofun ?_
      rintro ⟨before, event, after, hsplit, -⟩
      cases before <;> cases hsplit
  | append_singleton events event ih =>
      rw [run_concat, cancelled_step, credentials_run, ih, cancelledBy_concat]

end Session

/-- A request finds credentials and a token that is not cancelled. -/
def IsOpen (events : List Event) : Prop := credentialsAfter events = true ∧ ¬ CancelledBy events

instance : DecidablePred CancelledBy := fun events =>
  decidable_of_iff _ (Session.cancelled_run_iff events)

instance : DecidablePred IsOpen := fun _ => inferInstanceAs (Decidable (_ ∧ _))

/-- The requests that are asked of the service, in order: each that finds the credentials and the
token open after the events before it. -/
def asked (events : List Event) : List Request :=
  (List.range events.length).flatMap fun i =>
    if IsOpen (events.take i) then (events[i]?.bind Event.request?).toList else []

theorem asked_concat (events : List Event) (event : Event) :
    asked (events ++ [event]) =
      asked events ++ if IsOpen events then event.request?.toList else [] := by
  rw [asked, asked, List.length_append, List.length_singleton, List.range_succ,
    List.flatMap_append, List.flatMap_singleton, List.take_left, List.getElem?_concat_length]
  congr 1
  refine List.flatMap_congr fun i hi => ?_
  have hi : i < events.length := List.mem_range.1 hi
  rw [List.take_append_of_le_length (Nat.le_of_lt hi), List.getElem?_append_left hi]

namespace Session

theorem isOpen_iff (events : List Event) : IsOpen events ↔
    ((start.run events).credentials && !(start.run events).cancelled) = true := by
  rw [IsOpen, ← credentials_run, ← cancelled_run_iff, Bool.and_eq_true, Bool.not_eq_true',
    Bool.not_eq_true]

/-- **The calls of a session are those of the requests that were asked.** -/
theorem calls_run (events : List Event) :
    (start.run events).calls.reverse = (asked events).map Request.call := by
  induction events using List.reverseRecOn with
  | nil => rfl
  | append_singleton events event ih =>
      rw [run_concat, calls_step, List.reverse_append, ih, asked_concat, List.map_append]
      congr 1
      by_cases hopen : IsOpen events
      · rw [if_pos hopen, if_pos ((isOpen_iff events).1 hopen)]
        cases event.request? <;> rfl
      · rw [if_neg hopen, if_neg (mt (isOpen_iff events).2 hopen)]
        rfl

/-- The trace shows the session and the outcome of each event. -/
theorem getElem?_trace (s : Session) (before after : List Event) (event : Event) :
    (s.trace (before ++ event :: after))[before.length]? =
      some ((s.run before).step event, (s.run before).outcome event) := by
  induction before generalizing s with
  | nil => rfl
  | cons first before ih => exact ih (s.step first)

/-- An outcome depends on the session only through the credentials and the token. -/
theorem outcome_congr {s t : Session} (hcredentials : t.credentials = s.credentials)
    (hcancelled : t.cancelled = s.cancelled) : t.outcome event = s.outcome event := by
  cases event with
  | plan request => rw [outcome, outcome, hcredentials, hcancelled]
  | diagram request => rw [outcome, outcome, hcredentials, hcancelled]
  | _ => rfl

/-- **The account of a session.**  Take any event of any series of events.  After it there are as
many calls as requests were asked so far, a request being asked if it finds credentials and a token
that is not cancelled.  The event itself adds exactly one call, which carries its request, if it is
such a request, and otherwise none.  A token once cancelled stays cancelled until a new one comes.
What the event leads to depends on the events before it only through the credentials and the
token. -/
theorem account_of_session (before after : List Event) (event : Event) :
    let s := start.run before
    let s' := start.run (before ++ [event])
    (start.trace (before ++ event :: after))[before.length]? = some (s', s.outcome event) ∧
      s'.calls.length = (asked (before ++ [event])).length ∧
      (s.credentials = credentialsAfter before ∧ (s.cancelled = true ↔ CancelledBy before)) ∧
      (∀ request, event.request? = some request → IsOpen before →
        ∃ call outcome, Carries call request ∧ s.outcome event = some outcome ∧
          outcome.call = some call ∧ s'.calls = call :: s.calls) ∧
      (∀ request, event.request? = some request → ¬ IsOpen before →
        ∃ outcome, s.outcome event = some outcome ∧ outcome.call = none ∧ s'.calls = s.calls) ∧
      (event.request? = none → s.outcome event = none ∧ s'.calls = s.calls) ∧
      (s.cancelled = true → event ≠ .newToken → s'.cancelled = true) ∧
      ∀ t : Session, t.credentials = s.credentials → t.cancelled = s.cancelled →
        t.outcome event = s.outcome event ∧
          ∃ calls, s'.calls = calls ++ s.calls ∧ (t.step event).calls = calls ++ t.calls := by
  intro s s'
  have hstep : s' = s.step event := run_concat start before event
  have hopen : IsOpen before ↔ (s.credentials && !s.cancelled) = true := isOpen_iff before
  have hcalls := calls_step s event
  rw [← hstep] at hcalls
  refine ⟨?_, ?_, ⟨credentials_run before, cancelled_run_iff before⟩, ?_, ?_, ?_, ?_, ?_⟩
  · rw [getElem?_trace, hstep]
  · rw [← List.length_reverse, calls_run, List.length_map]
  · intro request hrequest hasked
    obtain ⟨outcome, houtcome, hcall, -⟩ := outcome_of_request s hrequest
    rw [if_pos (hopen.1 hasked)] at hcall hcalls
    refine ⟨request.call, outcome, request.call_carries, houtcome, hcall, ?_⟩
    rw [hcalls, hrequest]
    rfl
  · intro request hrequest hasked
    obtain ⟨outcome, houtcome, hcall, -⟩ := outcome_of_request s hrequest
    rw [if_neg (mt hopen.2 hasked)] at hcall hcalls
    exact ⟨outcome, houtcome, hcall, hcalls⟩
  · intro hrequest
    rw [hrequest, Option.toList_none, ite_self] at hcalls
    refine ⟨?_, hcalls⟩
    cases event with
    | plan request => cases hrequest
    | diagram request => cases hrequest
    | _ => rfl
  · intro hcancelled hne
    rw [hstep]
    exact (cancelled_step s event).2 (.inr ⟨hcancelled, hne⟩)
  · intro t hcredentials hcancelled
    refine ⟨outcome_congr hcredentials hcancelled, _, hcalls, ?_⟩
    rw [← hcredentials, ← hcancelled]
    exact calls_step t event

/-- A request for a flowchart of `f()` with this reply. -/
def probe (reply : Reply) : Request := ⟨.flowchart, "f()", ⟨none, true⟩, reply⟩

/-- `account_of_session` at work: the first reply cancels the token and is heard, the second request
is not asked, the third finds no credentials, and the fourth, with a new token and credentials
again, is asked and hangs. -/
theorem account_of_session_bumpy :
    let first := probe (.heard true (.error ["busy"]))
    let before := [Event.plan first, .plan first, .newToken, .credentials false, .diagram first,
      .credentials true]
    let s := start.run before
    let s' := start.run (before ++ [.diagram (probe .cancelledWaiting)])
    s'.calls.length = 2 ∧
      (∃ call outcome, Carries call (probe .cancelledWaiting) ∧
        s.outcome (.diagram (probe .cancelledWaiting)) = some outcome ∧
        outcome.call = some call ∧ s'.calls = call :: s.calls) ∧
      (start.run [.plan first, .plan first]).calls = (start.run [.plan first]).calls ∧
      (start.run [.plan first, .cancel]).calls = (start.run [.plan first]).calls ∧
      (start.run [.plan first, .credentials false]).cancelled = true ∧
      (start.run [.plan first, .newToken]).outcome (.plan first) = start.outcome (.plan first) := by
  intro first before s s'
  obtain ⟨-, hlength, -, hasked, -⟩ :=
    account_of_session before [] (.diagram (probe .cancelledWaiting))
  obtain ⟨-, -, -, -, hclosed, -⟩ := account_of_session [.plan first] [] (.plan first)
  obtain ⟨-, -, -, -, -, hother, -⟩ := account_of_session [.plan first] [] .cancel
  obtain ⟨-, -, -, -, -, -, hstays, -⟩ :=
    account_of_session [.plan first] [] (.credentials false)
  obtain ⟨-, -, -, -, -, -, -, hmemory⟩ := account_of_session [] [] (.plan first)
  refine ⟨hlength.trans rfl, hasked _ rfl (by decide), ?_, (hother rfl).2, hstays rfl nofun,
    (hmemory (start.run [.plan first, .newToken]) rfl rfl).1⟩
  obtain ⟨outcome, -, -, hcalls⟩ := hclosed first rfl (by decide)
  exact hcalls

end Session
end Chat
end CodeDiagram
