/-
# The single mendings

Every mending of an element or a link works on one field and leaves the others
alone (the `_local` theorems), and mending what is mended changes nothing (the
theorems named after a mending twice).  What a mending writes into its field
is a form that it does not touch again:

| mending | form |
| --- | --- |
| `canonicalWord` | a canonical spelling, or a text that means no word |
| `emptyIfUnset` | anything but `null` |
| `canonicalKeys`, `canonicalColumns` | a list of mended entries |
| `tidyCardinality` | a token, or a text without blanks that is no phrase |
| `fillLabel` | a text that is not blank |
-/

import CodeDiagram.Plan.Repair
import CodeDiagram.Proofs.Json.Fields
import CodeDiagram.Proofs.Plan.Vocabulary
import CodeDiagram.Proofs.Text.Trim

namespace CodeDiagram

open Json (Fields)

namespace Repair

variable {field : String} {element column link : Fields}

/-! ### Words -/

section Word

variable {α : Type} [Vocabulary α]

/-- A word is mended in its own field. -/
theorem canonicalWord_local (field : String) : Fields.Local [field] (canonicalWord α field) := by
  intro element other hother
  unfold canonicalWord
  split
  · exact Fields.get?_set_of_not_mem hother
  · rfl

/-- **A loosely spelled word is written canonically.** -/
theorem text?_canonicalWord {word : α}
    (h : (element.text? field).bind Vocabulary.ofLoose? = some word) :
    (canonicalWord α field element).text? field = some (Vocabulary.spelling word) := by
  simp only [canonicalWord, h]
  exact Fields.text?_set_self

variable [Vocabulary.Lawful α]

/-- The canonical spelling means the same word. -/
theorem ofLoose?_canonicalWord (field : String) (element : Fields) :
    ((canonicalWord α field element).text? field).bind (Vocabulary.ofLoose? (α := α)) =
      (element.text? field).bind Vocabulary.ofLoose? := by
  cases hword : (element.text? field).bind (Vocabulary.ofLoose? (α := α)) with
  | some word =>
      exact Vocabulary.bind_ofLoose?_of_spelling (text?_canonicalWord hword)
  | none => rw [canonicalWord, hword, hword]

/-- **A mended field spells a word exactly when it meant that word before.** -/
theorem text?_canonicalWord_eq_spelling_iff {word : α} :
    (canonicalWord α field element).text? field = some (Vocabulary.spelling word) ↔
      (element.text? field).bind Vocabulary.ofLoose? = some word := by
  constructor
  · intro h
    rw [← ofLoose?_canonicalWord]
    exact Vocabulary.bind_ofLoose?_of_spelling h
  · exact text?_canonicalWord

/-- A word that is mended stays as it is. -/
theorem canonicalWord_canonicalWord (field : String) (element : Fields) :
    canonicalWord α field (canonicalWord α field element) = canonicalWord α field element := by
  cases hword : (element.text? field).bind (Vocabulary.ofLoose? (α := α)) with
  | some word =>
      have htext := text?_canonicalWord hword
      rw [canonicalWord, ofLoose?_canonicalWord, hword]
      exact Fields.set_eq_self (Fields.get?_of_text? htext)
  | none =>
      have hsame : canonicalWord α field element = element := by rw [canonicalWord, hword]
      rw [hsame, hsame]

end Word

/-! ### Lists -/

/-- A list is filled in its own field. -/
theorem emptyIfUnset_local (field : String) : Fields.Local [field] (emptyIfUnset field) := by
  intro element other hother
  unfold emptyIfUnset
  split
  · exact Fields.get?_set_of_not_mem hother
  · rfl

/-- A field is unset if it is absent or null. -/
theorem isUnset_iff :
    isUnset field element = true ↔ element.get? field = none ∨ element.get? field = some .null := by
  unfold isUnset
  cases element.get? field with
  | none => simp
  | some value => cases value <;> simp

/-- A field that is filled is set. -/
theorem isUnset_emptyIfUnset (field : String) (element : Fields) :
    isUnset field (emptyIfUnset field element) = false := by
  unfold emptyIfUnset
  split_ifs with hunset
  · rw [isUnset, Fields.get?_set_self]
  · exact Bool.eq_false_iff.2 hunset

theorem emptyIfUnset_eq_self (h : isUnset field element = false) :
    emptyIfUnset field element = element := by
  rw [emptyIfUnset, h]
  rfl

/-- **An unset field becomes an empty list,** and any other stays. -/
theorem get?_emptyIfUnset (field : String) (element : Fields) :
    (emptyIfUnset field element).get? field =
      if isUnset field element = true then some (.array []) else element.get? field := by
  unfold emptyIfUnset
  split_ifs
  · exact Fields.get?_set_self
  · rfl

/-- What stands in a list that is empty where it was unset. -/
theorem items?_emptyIfUnset (field : String) (element : Fields) :
    (emptyIfUnset field element).items? field =
      if isUnset field element = true then some [] else element.items? field := by
  rw [Fields.items?, get?_emptyIfUnset]
  split_ifs <;> rfl

/-- A field that holds a list is not unset. -/
theorem isUnset_of_items? {items : List Json} (h : element.items? field = some items) :
    isUnset field element = false := by
  rw [isUnset, Fields.get?_of_items? h]

/-- Changes in other fields do not unset a field. -/
theorem isUnset_of_local {names : List String} {mend : Fields → Fields}
    (h : Fields.Local names mend) (hfield : field ∉ names) (element : Fields) :
    isUnset field (mend element) = isUnset field element := by
  rw [isUnset, isUnset, h element field hfield]

/-! ### Keys and columns -/

/-- A key that is mended stays as it is. -/
theorem canonicalKey_canonicalKey (entry : Json) :
    canonicalKey (canonicalKey entry) = canonicalKey entry := by
  cases hkey : entry.text?.bind (Vocabulary.ofLoose? (α := KeyKind)) with
  | some key =>
      have hmended : canonicalKey entry = .string (Vocabulary.spelling key) := by
        rw [canonicalKey, hkey]
      have hagain := Vocabulary.Lawful.ofLoose?_spelling key
      rw [hmended, canonicalKey, Json.text?, Option.bind_some, hagain]
  | none =>
      have hsame : canonicalKey entry = entry := by rw [canonicalKey, hkey]
      rw [hsame, hsame]

/-- **A mended entry spells a key exactly when it meant that key before.** -/
theorem canonicalKey_eq_spelling_iff {entry : Json} {key : KeyKind} :
    canonicalKey entry = .string (Vocabulary.spelling key) ↔
      entry.text?.bind Vocabulary.ofLoose? = some key := by
  unfold canonicalKey
  constructor
  · intro h
    cases hkey : entry.text?.bind (Vocabulary.ofLoose? (α := KeyKind)) with
    | some key' =>
        rw [hkey] at h
        have hsame := Vocabulary.Lawful.ofSpelling?_spelling key'
        rw [Json.string.inj h, Vocabulary.Lawful.ofSpelling?_spelling] at hsame
        exact hsame.symm
    | none =>
        rw [hkey] at h
        have hentry : entry = .string (Vocabulary.spelling key) := h
        rw [hentry, Json.text?, Option.bind_some, Vocabulary.Lawful.ofLoose?_spelling] at hkey
        cases hkey
  · intro h
    rw [h]

/-- The keys of a mended column are its mended entries. -/
theorem items?_canonicalKeys (column : Fields) :
    (canonicalKeys column).items? "keys" =
      (keyEntries? (column.get? "keys")).map (List.map canonicalKey) := by
  cases hentries : keyEntries? (column.get? "keys") with
  | some entries =>
      rw [canonicalKeys, hentries]
      exact Fields.items?_set_self
  | none =>
      rw [canonicalKeys, hentries, Fields.items?]
      cases hkeys : column.get? "keys" with
      | none => rfl
      | some json =>
          rw [hkeys] at hentries
          cases json <;> first | rfl | cases hentries

theorem canonicalKeys_local : Fields.Local ["keys"] canonicalKeys := by
  intro column other hother
  unfold canonicalKeys
  split
  · exact Fields.get?_set_of_not_mem hother
  · rfl

/-- Keys that are mended stay as they are. -/
theorem canonicalKeys_canonicalKeys (column : Fields) :
    canonicalKeys (canonicalKeys column) = canonicalKeys column := by
  cases hentries : keyEntries? (column.get? "keys") with
  | some entries =>
      have hmended : canonicalKeys column =
          column.set "keys" (.array (entries.map canonicalKey)) := by rw [canonicalKeys, hentries]
      have htwice : (entries.map canonicalKey).map canonicalKey = entries.map canonicalKey := by
        rw [List.map_map]
        exact List.map_congr_left fun entry _ => canonicalKey_canonicalKey entry
      rw [hmended, canonicalKeys, Fields.get?_set_self]
      simp only [keyEntries?, htwice]
      exact Fields.set_eq_self Fields.get?_set_self
  | none =>
      have hsame : canonicalKeys column = column := by rw [canonicalKeys, hentries]
      rw [hsame, hsame]

theorem canonicalColumns_local : Fields.Local ["columns"] canonicalColumns := by
  intro element other hother
  unfold canonicalColumns
  split
  · exact Fields.get?_set_of_not_mem hother
  · rfl

/-- Mends a column, if it is an object. -/
def canonicalColumn : Json → Json
  | .object column => .object (canonicalKeys column)
  | other => other

/-- The columns of a mended entity are its mended columns. -/
theorem items?_canonicalColumns (entity : Fields) :
    (canonicalColumns entity).items? "columns" =
      (entity.items? "columns").map (List.map canonicalColumn) := by
  cases hcolumns : entity.items? "columns" with
  | some columns =>
      rw [canonicalColumns, hcolumns]
      exact Fields.items?_set_self
  | none => rw [canonicalColumns, hcolumns, hcolumns, Option.map_none]

theorem isUnset_canonicalColumns (h : isUnset "columns" element = false) :
    isUnset "columns" (canonicalColumns element) = false := by
  unfold canonicalColumns
  split
  · rw [isUnset, Fields.get?_set_self]
  · exact h

/-- Columns that are mended stay as they are. -/
theorem canonicalColumns_canonicalColumns (entity : Fields) :
    canonicalColumns (canonicalColumns entity) = canonicalColumns entity := by
  cases hcolumns : entity.items? "columns" with
  | some columns =>
      rw [show canonicalColumns entity = _ by rw [canonicalColumns, hcolumns], canonicalColumns,
        Fields.items?_set_self]
      refine (Fields.set_eq_self ?_)
      rw [Fields.get?_set_self, List.map_map]
      congr 2
      refine List.map_congr_left fun column _ => ?_
      cases column with
      | object fields => exact congrArg Json.object (canonicalKeys_canonicalKeys fields).symm
      | _ => rfl
  | none =>
      have hsame : canonicalColumns entity = entity := by rw [canonicalColumns, hcolumns]
      rw [hsame, hsame]

/-! ### Cardinalities -/

/-- A token is no phrase, and it has no blanks. -/
theorem canonicalCardinality_token (c : Cardinality) : canonicalCardinality c.token = c.token := by
  obtain ⟨left, identifying, right⟩ := c
  cases left <;> cases identifying <;> cases right <;> rfl

/-- A cardinality that is mended stays as it is. -/
theorem canonicalCardinality_canonicalCardinality (raw : String) :
    canonicalCardinality (canonicalCardinality raw) = canonicalCardinality raw := by
  cases hphrase : phraseCardinality? (raw.toList.filter fun c => !Text.isBlank c) with
  | some c =>
      have hmended : canonicalCardinality raw = c.token := by
        simp only [canonicalCardinality, hphrase]
      rw [hmended, canonicalCardinality_token]
  | none =>
      have hmended : canonicalCardinality raw =
          String.ofList (raw.toList.filter fun c => !Text.isBlank c) := by
        simp only [canonicalCardinality, hphrase]
      rw [hmended]
      simp only [canonicalCardinality, String.toList_ofList, List.filter_filter, Bool.and_self,
        hphrase]

theorem tidyCardinality_local : Fields.Local ["cardinality"] tidyCardinality := by
  intro link other hother
  unfold tidyCardinality
  split
  · exact Fields.get?_set_of_not_mem hother
  · rfl

/-- A cardinality is mended by its text. -/
theorem text?_tidyCardinality (link : Fields) :
    (tidyCardinality link).text? "cardinality" =
      (link.text? "cardinality").map canonicalCardinality := by
  cases hraw : link.text? "cardinality" with
  | some raw =>
      rw [tidyCardinality, hraw]
      exact Fields.text?_set_self
  | none => rw [tidyCardinality, hraw, hraw, Option.map_none]

/-- A link whose cardinality is mended stays as it is. -/
theorem tidyCardinality_tidyCardinality (link : Fields) :
    tidyCardinality (tidyCardinality link) = tidyCardinality link := by
  cases hraw : link.text? "cardinality" with
  | some raw =>
      have hmended : tidyCardinality link =
          link.set "cardinality" (.string (canonicalCardinality raw)) := by
        rw [tidyCardinality, hraw]
      rw [hmended, tidyCardinality, Fields.text?_set_self]
      simp only [canonicalCardinality_canonicalCardinality]
      exact Fields.set_eq_self Fields.get?_set_self
  | none =>
      have hsame : tidyCardinality link = link := by rw [tidyCardinality, hraw]
      rw [hsame, hsame]

/-! ### Labels -/

/-- The element has a label that shows. -/
def hasLabel (field : String) (element : Fields) : Bool :=
  (element.text? field).any fun label => !Text.isBlankText label

/-- A label is filled in its own field. -/
theorem fillLabel_local (field name id : String) :
    Fields.Local [field] (fillLabel field name id) := by
  intro element other hother
  unfold fillLabel
  split
  · rfl
  · exact Fields.get?_set_of_not_mem hother

/-- A label that is there stays as it is. -/
theorem fillLabel_eq_self {name id : String} (h : hasLabel field element = true) :
    fillLabel field name id element = element := by
  rw [hasLabel] at h
  rw [fillLabel, if_pos h]

/-- The free name stands in for a blank label. -/
theorem text?_fillLabel {label name : String} (h : element.text? field = some label)
    (hname : name ≠ "") (id : String) : (fillLabel field name id element).text? field =
      some (if Text.isBlankText label = true then name else label) := by
  have hempty : ¬name.isEmpty = true := fun h => hname (String.isEmpty_iff.1 h)
  rw [fillLabel, h, Option.any_some, if_neg hempty]
  cases Text.isBlankText label with
  | true => exact Fields.text?_set_self
  | false => exact h

/-- **A filled label shows**, since a trimmed name shows unless it is empty. -/
theorem hasLabel_fillLabel {id : String} (hid : Text.isBlankText id = false) (raw : String)
    (element : Fields) : hasLabel field (fillLabel field (Text.trim raw) id element) = true := by
  unfold fillLabel
  split_ifs with hlabel hempty
  · exact hlabel
  · rw [hasLabel, Fields.text?_set_self, Option.any_some, hid]
    rfl
  · have hname : Text.trim raw ≠ "" := fun h => hempty (String.isEmpty_iff.2 h)
    rw [hasLabel, Fields.text?_set_self, Option.any_some, Text.isBlankText_trim hname]
    rfl

end Repair
end CodeDiagram
