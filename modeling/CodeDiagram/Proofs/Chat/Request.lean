/-
# What the service is sent

A request is sent unless the client refuses it (`Call.post_eq_ok_iff`).  It
carries the key behind `Bearer`, if the key is not blank, and an object with the
model, the messages in their order and just those options that are set
(`Post.Carries`).

The object is sent as a text.  Whatever characters the messages hold, they come
back from that text as they are, so no message can be taken for another field, or
for a part of another message.
-/

import CodeDiagram.Chat.Bundled
import CodeDiagram.Proofs.Json.Written
import Mathlib.Data.List.Forall2

namespace CodeDiagram
namespace Chat

open Json (Fields)

variable {client : Client} {s : Settings} {call : Call} {post : Post} {model : String}
  {temperature maxTokens : Option Json}

/-! ### Sending -/

/-- What is sent is the request of the call, if the client does not refuse it. -/
theorem Call.post_eq_ok_iff : call.post client s = .ok post ↔
    post = call.request s ∧ client.refusal? post = none := by
  rw [Call.post]
  cases hrefusal : client.refusal? (call.request s) with
  | some causes =>
      refine iff_of_false nofun ?_
      rintro ⟨rfl, h⟩
      cases hrefusal.symm.trans h
  | none =>
      rw [Except.ok.injEq]
      constructor
      · rintro rfl
        exact ⟨rfl, hrefusal⟩
      · exact fun h => h.1.symm

/-- A request that the client refuses is reported with the reason below the usual words. -/
theorem Call.post_eq_error_iff {causes : Causes} : call.post client s = .error causes ↔
    ∃ more, client.refusal? (call.request s) = some more ∧ causes = unreachable :: more := by
  rw [Call.post]
  cases client.refusal? (call.request s) with
  | none => exact iff_of_false nofun (by rintro ⟨_, ⟨⟩, -⟩)
  | some more =>
      rw [Except.error.injEq]
      constructor
      · exact fun h => ⟨more, rfl, h.symm⟩
      · rintro ⟨_, ⟨⟩, h⟩
        exact h.symm

/-- The client sends a request just where its address and the key that goes along are legal. -/
def Client.SendsLegal (client : Client) (LegalUrl LegalKey : String → Prop) : Prop :=
  ∀ post : Post, client.refusal? post = none ↔
    LegalUrl post.url ∧ ∀ key, post.key = some key → LegalKey key

/-- By its own rules for addresses and keys the client that comes along is of this kind. -/
theorem Client.sendsLegal_bundled : Client.bundled.SendsLegal
    (fun url => Address.defect? url = none) fun key => ∀ c ∈ key.toList, isControl c = false := by
  intro post
  have hcontrol : ¬ (post.key.any fun key => key.toList.any isControl) = true ↔
      ∀ key, post.key = some key → ∀ c ∈ key.toList, isControl c = false := by
    cases post.key <;> simp
  rw [← hcontrol, bundled]
  dsimp only
  cases Address.defect? post.url with
  | some defect => exact iff_of_false nofun fun h => nomatch h.1
  | none =>
      split_ifs with hkey
      · exact iff_of_false nofun fun h => h.2 hkey
      · exact iff_of_true rfl ⟨rfl, hkey⟩

/-! ### What is sent -/

/-- The value shows a message: its role, its content if it has one, and nothing else. -/
def Message.ShownIn (m : Message) (value : Json) : Prop :=
  ∃ fields : Fields, value = .object fields ∧
    fields.map Prod.fst = "role" :: (if m.content.isSome then ["content"] else []) ∧
    fields.text? "role" = some m.role ∧ fields.text? "content" = m.content

/-- The fields of the object that is sent: no others than these, in this order, and the messages
with their texts. -/
structure Call.ShownIn (call : Call) (s : Settings) (fields : Fields) : Prop where
  names : fields.map Prod.fst = ["model", "messages"] ++
    (if call.jsonMode then ["response_format"] else []) ++
    (if s.temperature.isSome then ["temperature"] else []) ++
    (if s.maxTokens.isSome then ["max_tokens"] else [])
  model : fields.text? "model" = some s.model
  messages : ∃ items, fields.items? "messages" = some items ∧
    List.Forall₂ Message.ShownIn call.messages items
  format : fields.get? "response_format" =
    if call.jsonMode then some (.object [("type", .string "json_object")]) else none

/-- What a request carries. -/
structure Post.Carries (post : Post) (s : Settings) (call : Call) : Prop where
  url : post.url = s.callUrl
  /-- The header is there just where the key is not blank, and shows the key as it is. -/
  authorization : ∀ header, post.key.map bearer = some header ↔
    ∃ key, s.apiKey = some key ∧ Text.isBlankText key = false ∧ header = "Bearer " ++ key
  /-- The object that is sent. -/
  body : ∃ fields : Fields, post.body = .object fields ∧ call.ShownIn s fields ∧
    fields.get? "temperature" = s.temperature.map (Json.ofBinary Decimal.binary32) ∧
    fields.get? "max_tokens" = s.maxTokens.map fun n : ℕ => Json.number (.integer n)
  /-- The object that is read from the text that is sent. -/
  text : ∃ fields : Fields, Json.skim post.body.text = .ok (.object fields) ∧ call.ShownIn s fields

/-- The fields of a call with these values for what is set. -/
def Call.fields (call : Call) (model : String) (temperature maxTokens : Option Json) : Fields :=
  [("model", .string model), ("messages", .array (call.messages.map Message.json))] ++
    (if call.jsonMode then [("response_format", objectFormat)] else []) ++
    (temperature.toList.map fun t => ("temperature", t)) ++
    maxTokens.toList.map fun n => ("max_tokens", n)

/-- The body has the fields of the call, with numbers for the options that are set. -/
theorem Call.body_eq (call : Call) (s : Settings) :
    call.body s = .object (call.fields s.model (s.temperature.map (Json.ofBinary Decimal.binary32))
      (s.maxTokens.map fun n : ℕ => .number (.integer n))) := by
  rw [Call.body, Call.fields]
  cases s.temperature <;> cases s.maxTokens <;> rfl

theorem Call.get?_temperature :
    (call.fields model temperature maxTokens).get? "temperature" = temperature := by
  obtain ⟨messages, jsonMode⟩ := call
  cases jsonMode <;> cases temperature <;> cases maxTokens <;> rfl

theorem Call.get?_maxTokens :
    (call.fields model temperature maxTokens).get? "max_tokens" = maxTokens := by
  obtain ⟨messages, jsonMode⟩ := call
  cases jsonMode <;> cases temperature <;> cases maxTokens <;> rfl

/-- The value of a message shows it. -/
theorem Message.shownIn_json (m : Message) : m.ShownIn m.json := by
  obtain ⟨role, content⟩ := m
  cases content <;> exact ⟨_, rfl, rfl, rfl, rfl⟩

/-- The fields of a call show the call, whatever numbers its options are written as. -/
theorem Call.shownIn_fields (htemperature : temperature.isSome = s.temperature.isSome)
    (hmaxTokens : maxTokens.isSome = s.maxTokens.isSome) (call : Call) :
    call.ShownIn s (call.fields s.model temperature maxTokens) where
  names := by
    rw [← htemperature, ← hmaxTokens, fields]
    cases call.jsonMode <;> cases temperature <;> cases maxTokens <;> rfl
  model := rfl
  messages := by
    refine ⟨_, rfl, ?_⟩
    rw [List.forall₂_map_right_iff, List.forall₂_same]
    exact fun m _ => m.shownIn_json
  format := by
    rw [fields]
    cases call.jsonMode <;> cases temperature <;> cases maxTokens <;> rfl

/-! ### The text that is sent -/

/-- The text of a message gives its value back. -/
theorem Message.readBack_json (m : Message) : m.json.readBack = m.json := by
  obtain ⟨role, content⟩ := m
  cases content <;> rfl

theorem readBackItems_map_json (messages : List Message) :
    Json.readBackItems (messages.map Message.json) = messages.map Message.json := by
  induction messages with
  | nil => rfl
  | cons m messages ih => rw [List.map_cons, Json.readBackItems, Message.readBack_json, ih]

/-- Only the numbers may come back in another form. -/
theorem Call.readBack_fields :
    Json.readBackFields (call.fields model temperature maxTokens) =
      call.fields model (temperature.map Json.readBack) (maxTokens.map Json.readBack) := by
  obtain ⟨messages, jsonMode⟩ := call
  have hitems := readBackItems_map_json messages
  cases jsonMode <;> cases temperature <;> cases maxTokens <;>
    simp [Call.fields, Json.readBackFields, Json.readBack, hitems, objectFormat]

/-- The text of a message can be read. -/
theorem Message.legible_json (m : Message) : m.json.Legible := by
  obtain ⟨role, content⟩ := m
  cases content <;> simp [Message.json, Json.Legible, Json.LegibleFields]

theorem legibleItems_map_json (messages : List Message) :
    Json.LegibleItems (messages.map Message.json) := by
  induction messages with
  | nil => trivial
  | cons m messages ih => exact ⟨m.legible_json, ih⟩

/-- The text of a body can be read. -/
theorem Call.legible_body (call : Call) (s : Settings) : (call.body s).Legible := by
  have hitems := legibleItems_map_json call.messages
  have htemperature := Json.legible_ofBinary Decimal.binary32
  rw [Call.body_eq, Call.fields]
  cases call.jsonMode <;> cases s.temperature <;> cases s.maxTokens <;>
    simp [Json.Legible, Json.LegibleFields, Json.Number.Legible, objectFormat, hitems,
      htemperature]

/-- **A request carries the key, the messages and the options that are set, as they are.** -/
theorem Call.carries_request (call : Call) (s : Settings) : (call.request s).Carries s call where
  url := rfl
  authorization header := by
    rw [request, Option.map_eq_some_iff]
    refine exists_congr fun key => ?_
    rw [Settings.usableKey?, Option.filter_eq_some_iff, Bool.not_eq_true', and_assoc]
    exact and_congr_right fun _ => and_congr_right fun _ => eq_comm
  body := by
    rw [request, Call.body_eq]
    exact ⟨_, rfl, call.shownIn_fields (by simp) (by simp), Call.get?_temperature,
      Call.get?_maxTokens⟩
  text := by
    have hread := Json.skim_text (call.legible_body s)
    rw [request]
    rw [Call.body_eq] at hread ⊢
    refine ⟨_, hread, ?_⟩
    rw [Call.readBack_fields]
    exact call.shownIn_fields (by simp) (by simp)

end Chat
end CodeDiagram
