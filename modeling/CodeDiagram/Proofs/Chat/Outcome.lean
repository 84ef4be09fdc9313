/-
# How a request ends

Section 4.1 of `SPEC_FULL.md`, outcomes.

Several things can be wrong with a request at once: there is no key, it is
cancelled, the service fails or stays silent, the answer is empty.  What counts
is put down as two tables of rules, one for what the service says (`Says`) and
one for the request as a whole (`Settles`).  A request for a plan ends as the
tables say and in no other way (`planResult_eq_iff_settles`).

A request for a diagram goes on from there: it ends in the same way unless the
plan is there, and then with the diagram of that plan (`diagramResult_eq`).
-/

import CodeDiagram.Chat.Gateway

namespace CodeDiagram
namespace Chat

variable {credentials cancelled : Bool} {kind : Kind} {code : String} {options : Options}
  {reply : Call → Reply} {answer answer' : Answer} {json text : String} {failure : Failure}

/-- How a request for a plan ends, if the service replies to a call as `reply` does. -/
def planResult (credentials cancelled : Bool) (kind : Kind) (code : String) (options : Options)
    (reply : Call → Reply) : Except Failure (Option String) :=
  (requestPlan (m := Id) credentials cancelled kind code options reply).result

/-- How a request for a diagram ends, if the service replies to a call as `reply` does. -/
def diagramResult (credentials cancelled : Bool) (kind : Kind) (code : String)
    (options : Options) (reply : Call → Reply) : Except Failure (Option String) :=
  (requestDiagram (m := Id) credentials cancelled kind code options reply).result

/-! ### What the service says -/

/-- What becomes of an answer.  Only its first choice is looked at. -/
inductive Says : Except Causes Answer → Except Failure String → Prop where
  /-- The service fails; all causes are reported. -/
  | failed (causes : Causes) : Says (.error causes) (.error (.api (": ".intercalate causes)))
  | noChoice {answer : Answer} : answer.choices = [] →
      Says (.ok answer) (.error (.parsing "The AI returned an empty response."))
  /-- The first choice has no content or a blank one. -/
  | noText {answer : Answer} {first : Choice} {rest : List Choice} :
      answer.choices = first :: rest →
      (∀ text, first.message.content = some text → Text.isBlankText text = true) →
      Says (.ok answer) (.error (.parsing "The AI returned an empty response."))
  | noJson {answer : Answer} {first : Choice} {rest : List Choice} {text : String} :
      answer.choices = first :: rest → first.message.content = some text →
      Text.isBlankText text = false → extract? text = none →
      Says (.ok answer) (.error
        (.parsing "The AI response did not contain any JSON. Please try again."))
  | json {answer : Answer} {first : Choice} {rest : List Choice} {text json : String} :
      answer.choices = first :: rest → first.message.content = some text →
      Text.isBlankText text = false → extract? text = some json → Says (.ok answer) (.ok json)

theorem Message.text?_eq_some {m : Message} (hcontent : m.content = some text)
    (hblank : Text.isBlankText text = false) : m.text? = some text := by
  rw [Message.text?, hcontent, Option.filter_some, hblank]
  rfl

theorem Message.text?_eq_none {m : Message}
    (h : ∀ text, m.content = some text → Text.isBlankText text = true) : m.text? = none := by
  rw [Message.text?, Option.filter_eq_none_iff]
  intro text hcontent
  rw [h text hcontent]
  exact Bool.false_ne_true

/-- The table says what becomes of an answer. -/
theorem planText_eq {r : Except Failure String} {said : Except Causes Answer}
    (h : Says said r) : planText said = r := by
  cases h with
  | failed causes => rfl
  | noChoice hchoices => rw [planText, hchoices]; rfl
  | noText hchoices hblank =>
      rw [planText, hchoices, List.head?_cons, Option.bind_some, Message.text?_eq_none hblank]
      rfl
  | noJson hchoices hcontent hblank hextract =>
      rw [planText, hchoices, List.head?_cons, Option.bind_some,
        Message.text?_eq_some hcontent hblank]
      simp only [hextract]
      rfl
  | json hchoices hcontent hblank hextract =>
      rw [planText, hchoices, List.head?_cons, Option.bind_some,
        Message.text?_eq_some hcontent hblank]
      simp only [hextract]

/-- The table has a rule for every answer. -/
theorem exists_rule (said : Except Causes Answer) : ∃ r, Says said r := by
  cases said with
  | error causes => exact ⟨_, .failed causes⟩
  | ok answer =>
      cases hchoices : answer.choices with
      | nil => exact ⟨_, .noChoice hchoices⟩
      | cons first rest =>
          cases hcontent : first.message.content with
          | none => exact ⟨_, .noText hchoices fun text h => absurd (hcontent.symm.trans h) nofun⟩
          | some text =>
              cases hblank : Text.isBlankText text with
              | true =>
                  refine ⟨_, .noText hchoices fun text' h => ?_⟩
                  rwa [← Option.some.inj (hcontent.symm.trans h)]
              | false =>
                  cases hextract : extract? text with
                  | none => exact ⟨_, .noJson hchoices hcontent hblank hextract⟩
                  | some json => exact ⟨_, .json hchoices hcontent hblank hextract⟩

theorem says_planText (said : Except Causes Answer) : Says said (planText said) := by
  obtain ⟨r, h⟩ := exists_rule said
  rwa [planText_eq h]

/-- The choices behind the first do not count. -/
theorem planText_congr (h : answer.choices.head? = answer'.choices.head?) :
    planText (.ok answer) = planText (.ok answer') := by
  simp only [planText, h]

/-! ### The request as a whole -/

/-- How a request for a plan ends.  The rules exclude each other: a missing key counts before
anything else, and a token that is cancelled before the service is asked counts before what the
service would reply. -/
inductive Settles (credentials cancelled : Bool) (reply : Reply) :
    Except Failure (Option String) → Prop where
  | noKey : credentials = false →
      Settles credentials cancelled reply
        (.error (.api "API key not found. Please set it in the configuration."))
  | cancelledBefore : credentials = true → cancelled = true →
      Settles credentials cancelled reply (.ok none)
  | cancelledWaiting : credentials = true → cancelled = false → reply = .cancelledWaiting →
      Settles credentials cancelled reply (.ok none)
  /-- What the service says is heard, whether or not the reply cancels the request. -/
  | heard {cancels : Bool} {said : Except Causes Answer} {r : Except Failure String} :
      credentials = true → cancelled = false → reply = .heard cancels said → Says said r →
      Settles credentials cancelled reply (r.map some)

/-- The result of a request for a plan, case by case. -/
theorem planResult_eq (credentials cancelled : Bool) (kind : Kind) (code : String)
    (options : Options) (reply : Call → Reply) :
    planResult credentials cancelled kind code options reply =
      if credentials = false then .error missingCredentials
      else if cancelled = true then .ok none
      else (Outcome.ofReply (.forPlan kind code options)
        (reply (.forPlan kind code options))).result := by
  cases credentials with
  | false => rfl
  | true => cases cancelled <;> rfl

/-- **A request ends as the rules say**, and in no other way. -/
theorem planResult_eq_iff_settles {r : Except Failure (Option String)} :
    planResult credentials cancelled kind code options reply = r ↔
      Settles credentials cancelled (reply (.forPlan kind code options)) r := by
  rw [planResult_eq]
  constructor
  · rintro rfl
    split
    · next hkey => exact .noKey hkey
    · next hkey =>
      have hkey : credentials = true := Bool.not_eq_false _ ▸ hkey
      split
      · next hcancelled => exact .cancelledBefore hkey hcancelled
      · next hopen =>
        have hopen : cancelled = false := Bool.eq_false_iff.2 hopen
        cases hreply : reply (.forPlan kind code options) with
        | cancelledWaiting => exact .cancelledWaiting hkey hopen rfl
        | heard cancels said => exact .heard hkey hopen rfl (says_planText said)
  · intro h
    cases h with
    | noKey hkey => rw [if_pos hkey]; rfl
    | cancelledBefore hkey hcancelled =>
        rw [if_neg (by simp [hkey]), if_pos hcancelled]
    | cancelledWaiting hkey hopen hreply =>
        rw [if_neg (by simp [hkey]), if_neg (by simp [hopen]), hreply]
        rfl
    | heard hkey hopen hreply hsaid =>
        rw [if_neg (by simp [hkey]), if_neg (by simp [hopen]), hreply, ← planText_eq hsaid]
        rfl

/-- A request comes to nothing only if it is cancelled before the service is asked or while it is
silent. -/
theorem planResult_eq_none_iff :
    planResult credentials cancelled kind code options reply = .ok none ↔
      credentials = true ∧
        (cancelled = true ∨ reply (.forPlan kind code options) = .cancelledWaiting) := by
  rw [planResult_eq_iff_settles]
  constructor
  · intro h
    generalize hr : (Except.ok none : Except Failure (Option String)) = r at h
    cases h with
    | noKey => cases hr
    | cancelledBefore hkey hcancelled => exact ⟨hkey, .inl hcancelled⟩
    | cancelledWaiting hkey _ hreply => exact ⟨hkey, .inr hreply⟩
    | @heard _ _ r => cases r <;> cases hr
  · rintro ⟨hkey, hcancelled⟩
    cases hopen : cancelled with
    | true => exact .cancelledBefore hkey rfl
    | false =>
        exact .cancelledWaiting hkey rfl (hcancelled.resolve_left (by simp [hopen]))

/-! ### The diagram -/

/-- A request for a diagram goes on from the plan. -/
theorem diagramResult_eq (credentials cancelled : Bool) (kind : Kind) (code : String)
    (options : Options) (reply : Call → Reply) :
    diagramResult credentials cancelled kind code options reply =
      match planResult credentials cancelled kind code options reply with
      | .ok (some json) => (diagramOfText kind json).map some
      | other => other :=
  rfl

theorem diagramResult_congr {reply' : Call → Reply}
    (h : planResult credentials cancelled kind code options reply =
      planResult credentials cancelled kind code options reply') :
    diagramResult credentials cancelled kind code options reply =
      diagramResult credentials cancelled kind code options reply' := by
  rw [diagramResult_eq, diagramResult_eq, h]

theorem diagramResult_of_error
    (h : planResult credentials cancelled kind code options reply = .error failure) :
    diagramResult credentials cancelled kind code options reply = .error failure := by
  rw [diagramResult_eq, h]

theorem diagramResult_of_plan
    (h : planResult credentials cancelled kind code options reply = .ok (some json)) :
    diagramResult credentials cancelled kind code options reply =
      (diagramOfText kind json).map some := by
  rw [diagramResult_eq, h]

/-- A diagram is that of a valid plan. -/
theorem diagramOfText_eq_ok_iff : diagramOfText kind json = .ok text ↔
    ∃ value plan, Json.read json = .ok value ∧ Plan.ofJson kind (value.repair kind) = .ok plan ∧
      plan.document.text = text := by
  rw [diagramOfText]
  cases hread : Json.read json with
  | error e => exact iff_of_false nofun (by rintro ⟨_, _, h, -⟩; cases h)
  | ok value =>
      show (value.diagram kind).mapError Failure.invalidPlan = .ok text ↔ _
      rw [Json.diagram]
      cases hplan : Plan.ofJson kind (value.repair kind) with
      | error defect =>
          refine iff_of_false nofun ?_
          rintro ⟨_, _, ⟨⟩, h, -⟩
          rw [hplan] at h
          cases h
      | ok plan =>
          constructor
          · rintro ⟨⟩
            exact ⟨value, plan, rfl, hplan, rfl⟩
          · rintro ⟨_, _, ⟨⟩, h, rfl⟩
            rw [hplan] at h
            cases h
            rfl

/-- The service is not blamed for the text of a plan. -/
theorem diagramOfText_ne_api (kind : Kind) (json message : String) :
    diagramOfText kind json ≠ .error (.api message) := by
  rw [diagramOfText]
  cases Json.read json with
  | error e => exact nofun
  | ok value =>
      show (value.diagram kind).mapError Failure.invalidPlan ≠ _
      cases value.diagram kind <;> exact nofun

theorem diagramResult_eq_none_iff :
    diagramResult credentials cancelled kind code options reply = .ok none ↔
      planResult credentials cancelled kind code options reply = .ok none := by
  cases hplan : planResult credentials cancelled kind code options reply with
  | error failure => rw [diagramResult_of_error hplan]
  | ok result =>
      cases result with
      | none => rw [diagramResult_eq, hplan]
      | some json =>
          rw [diagramResult_of_plan hplan]
          cases diagramOfText kind json <;> exact iff_of_false nofun nofun

theorem exists_plan_of_diagramResult
    (h : diagramResult credentials cancelled kind code options reply = .ok (some text)) :
    ∃ json, planResult credentials cancelled kind code options reply = .ok (some json) ∧
      diagramOfText kind json = .ok text := by
  cases hplan : planResult credentials cancelled kind code options reply with
  | error failure =>
      rw [diagramResult_of_error hplan] at h
      cases h
  | ok result =>
      cases result with
      | none =>
          rw [diagramResult_eq_none_iff.2 hplan] at h
          cases h
      | some json =>
          rw [diagramResult_of_plan hplan] at h
          refine ⟨json, rfl, ?_⟩
          cases hdiagram : diagramOfText kind json with
          | error failure =>
              rw [hdiagram] at h
              cases h
          | ok text' =>
              rw [hdiagram] at h
              cases h
              rfl

/-- **Every request ends as the rules say, and a diagram is made of nothing but the plan.**  A
request for a plan comes to nothing only when it is cancelled, and what stands behind the first
choice does not count.  A request for a diagram ends like that for the plan, and otherwise with
what becomes of the plan: with a diagram only if the plan is valid, and never with a failure of the
service. -/
theorem results_of_request (credentials cancelled : Bool) (kind : Kind) (code : String)
    (options : Options) (reply : Call → Reply) :
    let plan := planResult credentials cancelled kind code options
    let diagram := diagramResult credentials cancelled kind code options
    let replied := reply (.forPlan kind code options)
    (∀ r, plan reply = r ↔ Settles credentials cancelled replied r) ∧
      (plan reply = .ok none ↔
        credentials = true ∧ (cancelled = true ∨ replied = .cancelledWaiting)) ∧
      (∀ (cancels : Bool) (answer answer' : Answer),
        answer.choices.head? = answer'.choices.head? →
          plan (fun _ => .heard cancels (.ok answer)) =
              plan (fun _ => .heard cancels (.ok answer')) ∧
            diagram (fun _ => .heard cancels (.ok answer)) =
              diagram (fun _ => .heard cancels (.ok answer'))) ∧
      (∀ failure, plan reply = .error failure → diagram reply = .error failure) ∧
      (diagram reply = .ok none ↔ plan reply = .ok none) ∧
      (∀ json, plan reply = .ok (some json) →
        diagram reply = (diagramOfText kind json).map some ∧
          ∀ message, diagram reply ≠ .error (.api message)) ∧
      ∀ text, diagram reply = .ok (some text) →
        ∃ json value checked, plan reply = .ok (some json) ∧ Json.read json = .ok value ∧
          Plan.ofJson kind (value.repair kind) = .ok checked ∧ checked.document.text = text := by
  intro plan diagram replied
  refine ⟨fun _ => planResult_eq_iff_settles, planResult_eq_none_iff, ?_,
    fun _ => diagramResult_of_error, diagramResult_eq_none_iff, ?_, ?_⟩
  · intro cancels answer answer' hhead
    have hplan : plan (fun _ => .heard cancels (.ok answer)) =
        plan (fun _ => .heard cancels (.ok answer')) := by
      simp only [plan, planResult_eq, Outcome.ofReply, planText_congr hhead]
    exact ⟨hplan, diagramResult_congr hplan⟩
  · intro json hplan
    have hdiagram := diagramResult_of_plan hplan
    refine ⟨hdiagram, fun message hresult => ?_⟩
    rw [show diagram reply = _ from hdiagram] at hresult
    cases hjson : diagramOfText kind json with
    | error failure =>
        rw [hjson] at hresult
        cases hresult
        exact diagramOfText_ne_api kind json message hjson
    | ok text =>
        rw [hjson] at hresult
        cases hresult
  · intro text hresult
    obtain ⟨json, hplan, hdiagram⟩ := exists_plan_of_diagramResult hresult
    obtain ⟨value, checked, hread, hvalid, htext⟩ := diagramOfText_eq_ok_iff.1 hdiagram
    exact ⟨json, value, checked, hplan, hread, hvalid, htext⟩

/-- An answer with a plan in prose, and a second choice without content. -/
def wordy : Answer :=
  ⟨"", [⟨0, ⟨"assistant", some "So: \x7b\"nodes\": [], \"edges\": []\x7d"⟩, none⟩,
    ⟨1, ⟨"assistant", none⟩, none⟩], none⟩

/-- An answer whose first choice is blank. -/
def late : Answer :=
  ⟨"", [⟨0, ⟨"assistant", some " \n"⟩, none⟩, ⟨1, ⟨"assistant", some "\x7b\x7d"⟩, none⟩], none⟩

/-- `results_of_request` at work: the second choice changes nothing, for better or worse, and
a reply that cancels the request is heard. -/
theorem results_of_request_wordy :
    let plan := planResult true false .flowchart "f()" ⟨none, true⟩
    let diagram := diagramResult true false .flowchart "f()" ⟨none, true⟩
    let json := "\x7b\"nodes\": [], \"edges\": []\x7d"
    plan (fun _ => .heard true (.ok wordy)) = .ok (some json) ∧
      plan (fun _ => .heard true (.ok wordy)) =
        plan (fun _ => .heard true (.ok { wordy with choices := wordy.choices.take 1 })) ∧
      diagram (fun _ => .heard true (.ok wordy)) = (diagramOfText .flowchart json).map some ∧
      (∃ value checked, Json.read json = .ok value ∧
        Plan.ofJson .flowchart (value.repair .flowchart) = .ok checked ∧
        diagram (fun _ => .heard true (.ok wordy)) = .ok (some checked.document.text)) ∧
      diagram (fun _ => .heard true (.ok late)) =
        .error (.parsing "The AI returned an empty response.") := by
  intro plan diagram json
  obtain ⟨hsettles, -, hchoices, -, -, hdiagram, hvalid⟩ :=
    results_of_request true false .flowchart "f()" ⟨none, true⟩
      fun _ => .heard true (.ok wordy)
  have hplan : plan (fun _ => .heard true (.ok wordy)) = .ok (some json) :=
    (hsettles _).2 (.heard rfl rfl rfl (.json rfl rfl (by decide +kernel) (by decide +kernel)))
  obtain ⟨hsettles', -, -, herror, -⟩ :=
    results_of_request true false .flowchart "f()" ⟨none, true⟩
      fun _ => .heard true (.ok late)
  have hblank : Text.isBlankText " \n" = true := by decide +kernel
  refine ⟨hplan, (hchoices true wordy _ rfl).1, (hdiagram json hplan).1, ?_, herror _ ?_⟩
  · have hok : (diagramOfText .flowchart json).toOption.isSome = true := by decide +kernel
    cases hjson : diagramOfText .flowchart json with
    | error failure =>
        rw [hjson] at hok
        cases hok
    | ok text =>
        have hresult : diagram (fun _ => .heard true (.ok wordy)) = .ok (some text) := by
          rw [show diagram _ = _ from (hdiagram json hplan).1, hjson]
          rfl
        obtain ⟨json', value, checked, hplan', hread, hchecked, rfl⟩ := hvalid text hresult
        cases hplan.symm.trans hplan'
        exact ⟨value, checked, hread, hchecked, hresult⟩
  · refine (hsettles' _).2 (.heard rfl rfl rfl (.noText rfl ?_))
    rintro text ⟨⟩
    exact hblank

end Chat
end CodeDiagram
