/-
# The client of the service

A client, whichever it is, asks for a diagram by one request.  The service drops
the connection or answers with a status and a body, which may break off, and what
comes of that is put down rule by rule (`Exchange.Decides`):

| exchange | result |
| --- | --- |
| dropped | the failure `api`, which starts with the same words every time |
| 401, 403 | the failure `api`, the same for every body |
| any other status that is not 2xx | the failure `api`, with the status and the whole body |
| the same, and the body breaks off | the failure `api`, with the status |
| 2xx, no answer in the body, or it breaks off | the failure `api`, again in the same words |
| 2xx, an answer | what is made of the answer |

So the body counts only if the status says so, and a diagram comes of nothing but
the text of the first choice of an answer (`clientResult_eq_some_iff`).
-/

import CodeDiagram.Proofs.Chat.Outcome
import CodeDiagram.Proofs.Chat.Request

namespace CodeDiagram
namespace Chat

variable {client : Client} {s : Settings} {kind : Kind} {code text key : String}
  {options : Options} {server : Post → Exchange} {post : Post} {exchange : Exchange} {status : ℕ}
  {said : Except Causes Answer}

/-! ### What comes of the exchange -/

/-- The exchange brings a text of which this diagram is made. -/
def Exchange.Brings (client : Client) (kind : Kind) (exchange : Exchange) (text : String) : Prop :=
  ∃ status body answer first rest content json,
    exchange = .answered status (.ok body) ∧ 200 ≤ status ∧ status < 300 ∧
      client.decode body = .ok answer ∧ answer.choices = first :: rest ∧
      first.message.content = some content ∧ Text.isBlankText content = false ∧
      extract? content = some json ∧ diagramOfText kind json = .ok text

/-- What comes of an exchange, by its status and then by its body. -/
structure Exchange.Decides (client : Client) (kind : Kind) (exchange : Exchange)
    (result : Except Failure (Option String)) : Prop where
  dropped : ∀ causes, exchange = .failed causes → ∃ more, result = .error (.api
    ("Failed to reach the AI service; check your network connection" ++ more))
  /-- The body of such an answer shows nowhere. -/
  rejected : ∀ status body, exchange = .answered status body → status = 401 ∨ status = 403 →
    result = .error (.api ("The AI service rejected the API key (" ++ Status.text status ++
      "); it is missing or invalid"))
  refused : ∀ status body, exchange = .answered status (.ok body) → status ≠ 401 → status ≠ 403 →
    ¬ (200 ≤ status ∧ status < 300) →
    result = .error (.api ("AI request failed (" ++ Status.text status ++ "): " ++ body))
  /-- Of a body that breaks off nothing shows. -/
  refusedBroken : ∀ status causes, exchange = .answered status (.error causes) → status ≠ 401 →
    status ≠ 403 → ¬ (200 ≤ status ∧ status < 300) →
    result = .error (.api ("AI request failed (" ++ Status.text status ++ "): "))
  broken : ∀ status causes, exchange = .answered status (.error causes) → 200 ≤ status →
    status < 300 →
    ∃ more, result = .error (.api ("Failed to decode the AI service response" ++ more))
  undecodable : ∀ status body causes, exchange = .answered status (.ok body) → 200 ≤ status →
    status < 300 → client.decode body = .error causes →
    ∃ more, result = .error (.api ("Failed to decode the AI service response" ++ more))
  /-- Of an answer becomes what the rules for answers say, whatever the status. -/
  answered : ∀ status body answer, exchange = .answered status (.ok body) → 200 ≤ status →
    status < 300 → client.decode body = .ok answer → ∀ r, Says (.ok answer) r →
    result = (r.bind (diagramOfText kind)).map some

/-- The outermost cause comes first. -/
theorem exists_text_eq_append (cause : String) (causes : Causes) :
    ∃ more, Causes.text (cause :: causes) = cause ++ more := by
  refine ⟨": ".intercalate ("" :: causes), ?_⟩
  rw [← String.intercalate_cons_append, String.append_empty, Causes.text]

theorem Status.rejectsKey_iff : Status.rejectsKey status = true ↔ status = 401 ∨ status = 403 := by
  simp only [Status.rejectsKey, Bool.or_eq_true, beq_iff_eq]

theorem Status.isSuccess_iff : Status.isSuccess status = true ↔ 200 ≤ status ∧ status < 300 := by
  simp only [Status.isSuccess, Bool.and_eq_true, decide_eq_true_eq]

/-- A status that rejects the key leaves no room for the body. -/
theorem Exchange.answer_of_rejected (h : status = 401 ∨ status = 403)
    (body : Except Causes String) : (Exchange.answered status body).answer client =
      .error ["The AI service rejected the API key (" ++ Status.text status ++
        "); it is missing or invalid"] := by
  rw [answer, if_pos (Status.rejectsKey_iff.2 h)]

/-- Behind a status of success the body counts. -/
theorem Exchange.answer_of_success (hlow : 200 ≤ status) (hhigh : status < 300)
    (body : Except Causes String) : (Exchange.answered status body).answer client =
      (body.bind client.decode).mapError (undecoded :: ·) := by
  have hkey : ¬ (status = 401 ∨ status = 403) := by omega
  rw [answer, if_neg (mt Status.rejectsKey_iff.1 hkey), Status.isSuccess_iff.2 ⟨hlow, hhigh⟩]
  rfl

/-- Behind any other status the body is quoted. -/
theorem Exchange.answer_of_refused (h401 : status ≠ 401) (h403 : status ≠ 403)
    (hstatus : ¬ (200 ≤ status ∧ status < 300)) (body : Except Causes String) :
    (Exchange.answered status body).answer client =
      .error ["AI request failed (" ++ Status.text status ++ "): " ++ body.toOption.getD ""] := by
  have hkey : ¬ (status = 401 ∨ status = 403) := not_or.2 ⟨h401, h403⟩
  rw [answer, if_neg (mt Status.rejectsKey_iff.1 hkey),
    Bool.eq_false_iff.2 (mt Status.isSuccess_iff.1 hstatus)]
  rfl

/-- A body is decoded if it is there and the client finds an answer in it. -/
theorem mapError_bind_decode_eq_ok_iff {body : Except Causes String} {answer : Answer} :
    (body.bind client.decode).mapError (undecoded :: ·) = .ok answer ↔
      ∃ text, body = .ok text ∧ client.decode text = .ok answer := by
  cases body with
  | error causes => exact iff_of_false nofun (by rintro ⟨_, ⟨⟩, -⟩)
  | ok text =>
      show (client.decode text).mapError _ = _ ↔ _
      cases hdecode : client.decode text with
      | error causes =>
          refine iff_of_false nofun ?_
          rintro ⟨_, ⟨⟩, h⟩
          cases hdecode.symm.trans h
      | ok answer' =>
          constructor
          · rintro ⟨⟩
            exact ⟨text, rfl, hdecode⟩
          · rintro ⟨_, ⟨⟩, h⟩
            cases hdecode.symm.trans h
            rfl

/-- An exchange gives an answer only if it succeeds. -/
theorem Exchange.answer_eq_ok_iff {answer : Answer} : exchange.answer client = .ok answer ↔
    ∃ status body, exchange = .answered status (.ok body) ∧ 200 ≤ status ∧ status < 300 ∧
      client.decode body = .ok answer := by
  constructor
  · intro h
    cases exchange with
    | failed causes => cases h
    | answered status body =>
        by_cases hkey : status = 401 ∨ status = 403
        · rw [answer_of_rejected hkey] at h
          cases h
        · by_cases hstatus : 200 ≤ status ∧ status < 300
          · rw [answer_of_success hstatus.1 hstatus.2] at h
            obtain ⟨text, rfl, hdecode⟩ := mapError_bind_decode_eq_ok_iff.1 h
            exact ⟨status, text, rfl, hstatus.1, hstatus.2, hdecode⟩
          · rw [answer_of_refused (mt .inl hkey) (mt .inr hkey) hstatus] at h
            cases h
  · rintro ⟨status, body, rfl, hlow, hhigh, hdecode⟩
    rw [answer_of_success hlow hhigh]
    exact mapError_bind_decode_eq_ok_iff.2 ⟨body, rfl, hdecode⟩

/-- A diagram comes of an answer, of the text of its first choice and of the plan in it. -/
theorem Exchange.brings_iff : exchange.Brings client kind text ↔
    ∃ json, planText (exchange.answer client) = .ok json ∧ diagramOfText kind json = .ok text := by
  constructor
  · rintro ⟨status, body, answer, first, rest, content, json, hexchange, hlow, hhigh, hbody,
      hchoices, hcontent, hblank, hextract, hdiagram⟩
    have hanswer := answer_eq_ok_iff.2 ⟨status, body, hexchange, hlow, hhigh, hbody⟩
    refine ⟨json, ?_, hdiagram⟩
    rw [hanswer]
    exact planText_eq (.json hchoices hcontent hblank hextract)
  · rintro ⟨json, hplan, hdiagram⟩
    have hsays := says_planText (exchange.answer client)
    rw [hplan] at hsays
    generalize hanswer : exchange.answer client = said at hsays
    cases hsays with
    | @json answer first rest content _ hchoices hcontent hblank hextract =>
        obtain ⟨status, body, hexchange, hlow, hhigh, hbody⟩ := answer_eq_ok_iff.1 hanswer
        exact ⟨status, body, answer, first, rest, content, json, hexchange, hlow, hhigh, hbody,
          hchoices, hcontent, hblank, hextract, hdiagram⟩

/-- A diagram comes of a plan. -/
theorem bind_map_eq_ok_iff {plan : Except Failure String} :
    (plan.bind (diagramOfText kind)).map some = .ok (some text) ↔
      ∃ json, plan = .ok json ∧ diagramOfText kind json = .ok text := by
  cases plan with
  | error failure => exact iff_of_false nofun (by rintro ⟨_, h, -⟩; cases h)
  | ok json =>
      show (diagramOfText kind json).map some = _ ↔ _
      constructor
      · intro h
        cases hjson : diagramOfText kind json with
        | error failure =>
            rw [hjson] at h
            cases h
        | ok text' =>
            rw [hjson] at h
            cases h
            exact ⟨json, rfl, hjson⟩
      · rintro ⟨_, ⟨⟩, h⟩
        rw [h]
        rfl

/-- What is reported of causes starts with the outermost one. -/
theorem exists_planText_eq (kind : Kind) (cause : String) (causes : Causes) : ∃ more,
    ((planText (.error (cause :: causes))).bind (diagramOfText kind)).map some =
      .error (.api (cause ++ more)) := by
  obtain ⟨more, hmore⟩ := exists_text_eq_append cause causes
  refine ⟨more, ?_⟩
  show Except.error (Failure.api (Causes.text (cause :: causes))) = _
  rw [hmore]

/-- What becomes of an exchange is what the rules say. -/
theorem Exchange.decides (client : Client) (kind : Kind) (exchange : Exchange) :
    exchange.Decides client kind
      (((planText (exchange.answer client)).bind (diagramOfText kind)).map some) where
  dropped causes h := by
    rw [h]
    exact exists_planText_eq kind unreachable causes
  rejected status body h hstatus := by
    rw [h, answer_of_rejected hstatus]
    rfl
  refused status body h h401 h403 hstatus := by
    rw [h, answer_of_refused h401 h403 hstatus]
    rfl
  refusedBroken status causes h h401 h403 hstatus := by
    rw [h, answer_of_refused h401 h403 hstatus]
    show Except.error (Failure.api ("AI request failed (" ++ Status.text status ++ "): " ++ "")) = _
    rw [String.append_empty]
  broken status causes h hlow hhigh := by
    rw [h, answer_of_success hlow hhigh]
    exact exists_planText_eq kind undecoded causes
  undecodable status body causes h hlow hhigh hdecode := by
    rw [h, answer_of_success hlow hhigh, Except.bind, hdecode]
    exact exists_planText_eq kind undecoded causes
  answered status body answer h hlow hhigh hdecode r hsays := by
    rw [h, answer_of_success hlow hhigh, Except.bind, hdecode]
    exact congrArg (fun plan => (Except.bind plan (diagramOfText kind)).map some)
      (planText_eq hsays)

/-! ### The client -/

/-- How a request for a diagram ends for a client with these settings, if the service treats a
request as `server` does. -/
def clientResult (client : Client) (s : Settings) (cancelled : Bool) (kind : Kind) (code : String)
    (options : Options) (server : Post → Exchange) : Except Failure (Option String) :=
  diagramResult s.usableKey?.isSome cancelled kind code options fun call =>
    .heard false (call.answer (m := Id) client s server)

theorem diagramResult_of_heard {cancels : Bool} {reply : Call → Reply}
    (h : reply (.forPlan kind code options) = .heard cancels said) :
    diagramResult true false kind code options reply =
      ((planText said).bind (diagramOfText kind)).map some := by
  have hplan : planResult true false kind code options reply = (planText said).map some := by
    rw [planResult_eq, if_neg (by decide), if_neg (by decide), h]
    rfl
  rw [diagramResult_eq, hplan]
  cases planText said <;> rfl

theorem clientResult_of_key (hkey : s.usableKey? = some key) :
    clientResult client s false kind code options server =
      ((planText ((Call.forPlan kind code options).answer (m := Id) client s server)).bind
        (diagramOfText kind)).map some := by
  rw [clientResult, hkey]
  exact diagramResult_of_heard rfl

/-- A request that is sent ends as its exchange does. -/
theorem clientResult_of_post (hkey : s.usableKey? = some key)
    (hpost : (Call.forPlan kind code options).post client s = .ok post) :
    clientResult client s false kind code options server =
      ((planText ((server post).answer client)).bind (diagramOfText kind)).map some := by
  rw [clientResult_of_key hkey, Call.answer, hpost]
  rfl

/-- A request that cannot be sent fails for the reasons of that. -/
theorem clientResult_of_unsent {causes : Causes} (hkey : s.usableKey? = some key)
    (hpost : (Call.forPlan kind code options).post client s = .error causes) :
    clientResult client s false kind code options server = .error (.api causes.text) := by
  rw [clientResult_of_key hkey, Call.answer, hpost]
  rfl

/-- Without a key nothing is asked. -/
theorem clientResult_of_no_key (hkey : s.usableKey? = none) (cancelled : Bool) :
    clientResult client s cancelled kind code options server = .error missingCredentials := by
  rw [clientResult, hkey]
  rfl

/-- A request that is cancelled beforehand ends without a result. -/
theorem clientResult_of_cancelled (hkey : s.usableKey? = some key) :
    clientResult client s true kind code options server = .ok none := by
  rw [clientResult, hkey]
  rfl

/-- **A diagram comes only of an exchange that succeeds**, and of what it brings. -/
theorem clientResult_eq_some_iff {cancelled : Bool} :
    clientResult client s cancelled kind code options server = .ok (some text) ↔
      cancelled = false ∧ ∃ key post, s.usableKey? = some key ∧
        (Call.forPlan kind code options).post client s = .ok post ∧
          (server post).Brings client kind text := by
  cases hkey : s.usableKey? with
  | none =>
      rw [clientResult_of_no_key hkey]
      exact iff_of_false nofun fun ⟨_, _, _, h, _⟩ => nomatch h
  | some key =>
      cases cancelled with
      | true =>
          rw [clientResult_of_cancelled hkey]
          exact iff_of_false nofun fun h => nomatch h.1
      | false =>
          cases hpost : (Call.forPlan kind code options).post client s with
          | error causes =>
              rw [clientResult_of_unsent hkey hpost]
              exact iff_of_false nofun fun ⟨_, _, _, _, h, _⟩ => nomatch h
          | ok post =>
              rw [clientResult_of_post hkey hpost, bind_map_eq_ok_iff, ← Exchange.brings_iff]
              constructor
              · exact fun h => ⟨rfl, key, post, rfl, rfl, h⟩
              · rintro ⟨-, _, _, -, ⟨⟩, h⟩
                exact h

/-- **A diagram comes only of an exchange that succeeds, and every other exchange is reported for
what it is.**  Where there is a usable key and nothing is cancelled the request is sent, unless the
client refuses it, and the exchange decides what comes of it.  Whatever is sent carries the key and
the messages as they are, and the options that are set.  All this holds of every client. -/
theorem results_of_client (client : Client) (s : Settings) (cancelled : Bool) (kind : Kind)
    (code : String) (options : Options) (server : Post → Exchange) :
    let call := Call.forPlan kind code options
    let result := clientResult client s cancelled kind code options server
    (∀ text, result = .ok (some text) ↔ cancelled = false ∧ ∃ key post,
        s.usableKey? = some key ∧ call.post client s = .ok post ∧
          (server post).Brings client kind text) ∧
      (∀ key, s.usableKey? = some key → cancelled = false →
        (∀ post, call.post client s = .ok post → (server post).Decides client kind result) ∧
          ∀ causes, call.post client s = .error causes → ∃ more, result = .error (.api
            ("Failed to reach the AI service; check your network connection" ++ more))) ∧
      ∀ call : Call, (call.request s).Carries s call ∧
        ∀ post, call.post client s = .ok post ↔
          post = call.request s ∧ client.refusal? post = none := by
  intro call result
  refine ⟨fun text => clientResult_eq_some_iff, ?_,
    fun call => ⟨call.carries_request s, fun post => Call.post_eq_ok_iff⟩⟩
  rintro key hkey rfl
  constructor
  · intro post hpost
    rw [show result = _ from clientResult_of_post hkey hpost]
    exact (server post).decides client kind
  · intro causes hpost
    obtain ⟨more, -, rfl⟩ := Call.post_eq_error_iff.1 hpost
    rw [show result = _ from clientResult_of_unsent hkey hpost]
    exact exists_planText_eq kind unreachable more

/-- Settings with a key and without a temperature. -/
def keyed : Settings := { Settings.default with apiKey := some "k", temperature := none }

/-- The text of an answer with this content in its only choice. -/
def answerText (content : String) : String :=
  Json.text (.object [("choices", .array [.object
    [("index", .number (.integer 0)), ("message", Message.json ⟨"assistant", some content⟩)]])])

/-- The client that comes along decodes such an answer. -/
theorem decode_answerText (content : String) : Client.bundled.decode (answerText content) =
    .ok ⟨"", [⟨0, ⟨"assistant", some content⟩, none⟩], none⟩ := by
  have hrange : (Json.Number.literal (.integer 0)).outOfRange = false := by decide +kernel
  have hzero : Json.Number.readBack (.integer 0) = .number (.integer 0) := by
    rw [Json.Number.readBack, hrange]
    rfl
  have hanswer : Answer.ofText? (answerText content) =
      some ⟨"", [⟨0, ⟨"assistant", some content⟩, none⟩], none⟩ := by
    rw [Answer.ofText?, answerText, Json.skim_text (by
      simp [Json.Legible, Json.LegibleItems, Json.LegibleFields, Json.Number.Legible,
        Message.legible_json])]
    simp only [Json.readBack, Json.readBackItems, Json.readBackFields, hzero, Message.readBack_json]
    rfl
  rw [Client.bundled]
  dsimp only
  rw [hanswer]

/-- `results_of_client` at work, with the client that comes along: a diagram comes of an answer, but
not if the key is rejected or the choice is blank; a body that is no answer is shown as it is, and
nothing of a body that breaks off. -/
theorem results_of_client_scripted :
    let json := "\x7b\"nodes\": [], \"edges\": []\x7d"
    let plan := "So: " ++ json
    let result := clientResult .bundled keyed false .flowchart "f()" ⟨none, true⟩
    (∃ text, result (fun _ => .answered 200 (.ok (answerText plan))) = .ok (some text)) ∧
      result (fun _ => .answered 401 (.ok (answerText plan))) = .error (.api
        "The AI service rejected the API key (401 Unauthorized); it is missing or invalid") ∧
      result (fun _ => .answered 503 (.ok "busy")) =
        .error (.api "AI request failed (503 Service Unavailable): busy") ∧
      result (fun _ => .answered 503 (.error ["cut"])) =
        .error (.api "AI request failed (503 Service Unavailable): ") ∧
      result (fun _ => .answered 200 (.ok (answerText " "))) =
        .error (.parsing "The AI returned an empty response.") ∧
      ∃ post, (Call.forPlan .flowchart "f()" ⟨none, true⟩).post .bundled keyed = .ok post ∧
        post.key.map bearer = some "Bearer k" ∧
        ∃ fields, Json.skim post.body.text = .ok (.object fields) ∧
          fields.map Prod.fst = ["model", "messages", "response_format", "max_tokens"] := by
  intro json plan result
  have hkey : keyed.usableKey? = some "k" := by decide +kernel
  have hrefusal : Client.bundled.refusal?
      ((Call.forPlan .flowchart "f()" ⟨none, true⟩).request keyed) = none := by
    refine (Client.sendsLegal_bundled _).2 ⟨?_, fun key h => ?_⟩
    · show Address.defect? keyed.callUrl = none
      rw [Address.defect?, Settings.callUrl, String.toList_append, String.toList_ofList]
      decide +kernel
    · have hchars : "k".toList = ['k'] := rfl
      cases hkey.symm.trans h
      show ∀ c ∈ "k".toList, isControl c = false
      rw [hchars, List.forall_mem_singleton]
      decide
  have hall := results_of_client .bundled keyed false .flowchart "f()" ⟨none, true⟩
  obtain ⟨hdiagram, -, hcall⟩ := hall fun _ => .answered 200 (.ok (answerText plan))
  obtain ⟨hcarries, hpost⟩ := hcall (.forPlan .flowchart "f()" ⟨none, true⟩)
  replace hpost := (hpost _).2 ⟨rfl, hrefusal⟩
  have hdecides (exchange : Exchange) :
      exchange.Decides .bundled .flowchart (result fun _ => exchange) :=
    ((hall fun _ => exchange).2.1 "k" hkey rfl).1 _ hpost
  refine ⟨?_, ?_, ?_, ?_, ?_, _, hpost, ?_, ?_⟩
  · have hextract : extract? plan = some json := by decide +kernel
    have hok : (diagramOfText .flowchart json).toOption.isSome = true := by decide +kernel
    cases hjson : diagramOfText .flowchart json with
    | error failure =>
        rw [hjson] at hok
        cases hok
    | ok text =>
        exact ⟨text, (hdiagram text).2 ⟨rfl, "k", _, hkey, hpost, 200, _, _, _, _, plan, json,
          rfl, by decide, by decide, decode_answerText plan, rfl, rfl, by decide +kernel, hextract,
          hjson⟩⟩
  · exact (hdecides _).rejected 401 _ rfl (.inl rfl)
  · exact (hdecides _).refused 503 _ rfl (by decide) (by decide) (by decide)
  · exact (hdecides _).refusedBroken 503 _ rfl (by decide) (by decide) (by decide)
  · have hblank : Text.isBlankText " " = true := by decide +kernel
    refine (hdecides _).answered 200 _ _ rfl (by decide) (by decide)
      (decode_answerText " ") _ (.noText rfl ?_)
    rintro _ ⟨⟩
    exact hblank
  · exact (hcarries.authorization _).2 ⟨"k", rfl, by decide +kernel, by decide +kernel⟩
  · obtain ⟨fields, hread, hlists⟩ := hcarries.text
    exact ⟨fields, hread, hlists.names⟩

end Chat
end CodeDiagram
