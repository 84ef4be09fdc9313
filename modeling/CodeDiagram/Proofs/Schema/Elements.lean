/-
# Checks of single fields

When a field passes its check (the `_eq_ok_iff` theorems), and with which
defects it can fail (the `_raises` theorems).
-/

import CodeDiagram.Proofs.Plan.Cardinality
import CodeDiagram.Proofs.Plan.Vocabulary
import CodeDiagram.Proofs.Schema.Checks

namespace CodeDiagram

open Json (Fields)

namespace Schema
namespace Element

variable {e : Element} {field s : String} {allowed : Defect → Prop}

/-- A field is a string if it holds one. -/
theorem string_eq_ok_iff : e.string field = .ok s ↔ e.fields.text? field = some s :=
  require_eq_ok_iff

/-- A field is an identifier if it holds a string of that shape. -/
theorem identifier_eq_ok_iff : e.identifier field = .ok s ↔
    e.fields.text? field = some s ∧ Identifier.isValid s = true := by
  rw [identifier, bind_eq_ok_iff]
  constructor
  · rintro ⟨value, hvalue, h⟩
    split_ifs at h with hvalid
    cases h
    exact ⟨string_eq_ok_iff.1 hvalue, hvalid⟩
  · rintro ⟨htext, hvalid⟩
    exact ⟨s, string_eq_ok_iff.2 htext, if_pos hvalid⟩

/-- A reference is an identifier that some element is known by. -/
theorem reference_eq_ok_iff {known : List String} {target : String} :
    e.reference field known target = .ok s ↔
      e.fields.text? field = some s ∧ Identifier.isValid s = true ∧ s ∈ known := by
  rw [reference, bind_eq_ok_iff]
  constructor
  · rintro ⟨value, hvalue, h⟩
    split_ifs at h with hknown
    cases h
    obtain ⟨htext, hvalid⟩ := identifier_eq_ok_iff.1 hvalue
    exact ⟨htext, hvalid, List.contains_iff_mem.1 hknown⟩
  · rintro ⟨htext, hvalid, hknown⟩
    exact ⟨s, identifier_eq_ok_iff.2 ⟨htext, hvalid⟩, if_pos (List.contains_iff_mem.2 hknown)⟩

/-- A field is a word of a closed vocabulary if it holds a string that the vocabulary reads. -/
theorem word_eq_ok_iff {α : Type} [Vocabulary α] {word : α} : e.word field α = .ok word ↔
    ∃ s, e.fields.text? field = some s ∧ Vocabulary.ofSpelling? s = some word := by
  rw [Element.word, bind_eq_ok_iff]
  constructor
  · rintro ⟨s, hs, h⟩
    exact ⟨s, string_eq_ok_iff.1 hs, require_eq_ok_iff.1 h⟩
  · rintro ⟨s, htext, hword⟩
    exact ⟨s, string_eq_ok_iff.2 htext, require_eq_ok_iff.2 hword⟩

/-- In a lawful vocabulary that string is the spelling of the word, letter by letter. -/
theorem word_eq_ok_iff_spelling {α : Type} [Vocabulary α] [Vocabulary.Lawful α] {word : α} :
    e.word field α = .ok word ↔ e.fields.text? field = some (Vocabulary.spelling word) := by
  simp [word_eq_ok_iff, Vocabulary.ofSpelling?_eq_some_iff]

/-- A field is a cardinality if it holds the token. -/
theorem cardinality_eq_ok_iff {c : Cardinality} :
    e.cardinality field = .ok c ↔ e.fields.text? field = some c.token := by
  rw [cardinality, bind_eq_ok_iff]
  constructor
  · rintro ⟨s, hs, h⟩
    rw [string_eq_ok_iff.1 hs, Cardinality.ofToken?_eq_some_iff.1 (require_eq_ok_iff.1 h)]
  · intro h
    exact ⟨c.token, string_eq_ok_iff.2 h, require_eq_ok_iff.2 (Cardinality.ofToken?_token c)⟩

theorem array_eq_ok_iff {items : List Json} :
    e.array field = .ok items ↔ e.fields.items? field = some items :=
  require_eq_ok_iff

/-- A field is a list of strings if it holds an array of nothing else. -/
theorem stringArray_eq_ok_iff {texts : List String} :
    e.stringArray field = .ok texts ↔ e.fields.items? field = some (texts.map .string) := by
  have hitem : ∀ (item : Json) (text : String),
      require item.text? (.notAStringArray e.path field) = .ok text ↔ item = .string text :=
    fun item text => require_eq_ok_iff.trans Json.text?_eq_some_iff
  rw [stringArray, bind_eq_ok_iff]
  constructor
  · rintro ⟨items, hitems, h⟩
    rw [array_eq_ok_iff.1 hitems, (mapM_eq_ok_iff_eq_map hitem).1 h]
  · intro h
    exact ⟨_, array_eq_ok_iff.2 h, (mapM_eq_ok_iff_eq_map hitem).2 rfl⟩

/-- An entry is a key if it is the spelling of one. -/
theorem keyEntry_eq_ok_iff {entry : Json} {key : KeyKind} :
    e.keyEntry field entry = .ok key ↔ entry = .string (Vocabulary.spelling key) := by
  rw [keyEntry, bind_eq_ok_iff]
  constructor
  · rintro ⟨value, hvalue, h⟩
    rw [require_eq_ok_iff, Vocabulary.ofSpelling?_eq_some_iff] at h
    rw [require_eq_ok_iff, Json.text?_eq_some_iff] at hvalue
    rw [hvalue, h]
  · rintro rfl
    exact ⟨_, rfl, require_eq_ok_iff.2 (Vocabulary.Lawful.ofSpelling?_spelling key)⟩

/-- A field is a list of keys if it holds an array of spellings.  A key that is repeated counts
once, where it stands first. -/
theorem keys_eq_ok_iff {keys : List KeyKind} :
    e.keys field = .ok keys ↔ ∃ entries : List KeyKind,
      e.fields.items? field = some (entries.map fun key => .string (Vocabulary.spelling key)) ∧
        entries.eraseDups = keys := by
  rw [Element.keys, bind_eq_ok_iff]
  constructor
  · rintro ⟨items, hitems, h⟩
    obtain ⟨entries, hentries, h⟩ := bind_eq_ok_iff.1 h
    rw [mapM_eq_ok_iff_eq_map fun _ _ => keyEntry_eq_ok_iff] at hentries
    rw [array_eq_ok_iff, hentries] at hitems
    exact ⟨entries, hitems, Except.ok.inj h⟩
  · rintro ⟨entries, hitems, rfl⟩
    refine ⟨_, array_eq_ok_iff.2 hitems, bind_eq_ok_iff.2 ⟨entries, ?_, rfl⟩⟩
    exact (mapM_eq_ok_iff_eq_map fun _ _ => keyEntry_eq_ok_iff).2 rfl

/-- The field is absent, null or a string. -/
def isOptionalString (field : String) (fields : Fields) : Bool :=
  match fields.get? field with
  | none => true
  | some .null => true
  | some (.string _) => true
  | some _ => false

/-- An optional string may be absent or null. -/
theorem optionalString_of_isOptionalString (h : isOptionalString field e.fields = true) :
    ∃ text, e.optionalString field = .ok text := by
  unfold isOptionalString at h
  unfold optionalString
  cases hget : e.fields.get? field with
  | none => exact ⟨none, rfl⟩
  | some json =>
      rw [hget] at h
      cases json with
      | null => exact ⟨none, rfl⟩
      | string s => exact ⟨some s, rfl⟩
      | _ => cases h

/-- Anything else in its place is the one defect of its check. -/
theorem optionalString_of_not_isOptionalString (h : isOptionalString field e.fields = false) :
    e.optionalString field = .error (.invalidOptional e.path field) := by
  unfold isOptionalString at h
  unfold optionalString
  cases hget : e.fields.get? field with
  | none =>
      rw [hget] at h
      cases h
  | some json =>
      rw [hget] at h
      cases json with
      | null => cases h
      | string s => cases h
      | _ => rfl

/-- A check for a string fails in one way. -/
theorem string_raises (h : allowed (.notAString e.path field)) : Raises allowed (e.string field) :=
  .require h

/-- A check for an optional string fails in one way, which is another. -/
theorem optionalString_raises (h : allowed (.invalidOptional e.path field)) :
    Raises allowed (e.optionalString field) := by
  intro defect hdefect
  unfold optionalString at hdefect
  split at hdefect
  · cases hdefect
  · cases hdefect
  · cases hdefect
  · exact Except.error.inj hdefect ▸ h

theorem array_raises (h : allowed (.notAnArray e.path field)) : Raises allowed (e.array field) :=
  .require h

/-- A check for a list of strings fails for the list or for an item of it. -/
theorem stringArray_raises (harray : allowed (.notAnArray e.path field))
    (hitem : allowed (.notAStringArray e.path field)) : Raises allowed (e.stringArray field) :=
  .bind (array_raises harray) fun _ _ => .mapM fun _ _ => .require hitem

/-- Where strings have the shape of identifiers, only a missing string is left to fail. -/
theorem identifier_raises (hvalid : ∀ s ∈ e.fields.text? field, Identifier.isValid s = true)
    (h : allowed (.notAString e.path field)) : Raises allowed (e.identifier field) := by
  refine .bind (string_raises h) fun s hs => .of_eq_ok (a := s) ?_
  exact if_pos (hvalid s (string_eq_ok_iff.1 hs))

/-- A check for a word fails for the string or for the word. -/
theorem word_raises {α : Type} [Vocabulary α] (hstring : allowed (.notAString e.path field))
    (hword : ∀ value expected, allowed (.unknownWord e.path field value expected)) :
    Raises allowed (e.word field α) :=
  .bind (string_raises hstring) fun _ _ => .require (hword _ _)

/-- A check for a cardinality fails for the string or for the token. -/
theorem cardinality_raises (hstring : allowed (.notAString e.path field))
    (hcardinality : ∀ value, allowed (.invalidCardinality e.path value)) :
    Raises allowed (e.cardinality field) :=
  .bind (string_raises hstring) fun _ _ => .require (hcardinality _)

/-- A check for keys fails for the list, for an entry that is no string or for the word in it. -/
theorem keys_raises (harray : allowed (.notAnArray e.path field))
    (hitem : allowed (.notAStringArray e.path field))
    (hword : ∀ value expected, allowed (.unknownWord e.path field value expected)) :
    Raises allowed (e.keys field) := by
  refine .bind (array_raises harray) fun entries _ => .bind (.mapM fun entry _ => ?_) fun _ _ =>
    .of_eq_ok rfl
  exact .bind (.require hitem) fun _ _ => .require (hword _ _)

end Element

end Schema
end CodeDiagram
