/-
# Two ways to write the keys of a column

The keys of a column can be written as an array of texts or as one text with
commas between them.  In a plan that passes with an empty key list in that
column, both ways lead to the same result (`keysAgree_of_texts`): both pass with
the keys that the texts mean, later repetitions left out, or both are turned
down at that column, on the first text that means no key.

When one column of a plan that passes is given other keys, every other check of
the plan succeeds as before, so the check of these keys decides alone
(`entityRelation_withKeys`).  What is checked are the keys that the repair has
mended, and there a text passes if it meant a key (`keyEntry_canonicalKey`).
-/

import CodeDiagram.Proofs.Repair.Frame
import CodeDiagram.Proofs.Repair.KeyLists
import CodeDiagram.Proofs.Schema.Reading

namespace CodeDiagram

open Json (Fields)

/-! ### A column of a plan -/

namespace EntityRelation

/-- Gives keys to the column at a position. -/
def Entity.withKeys (j : Nat) (keys : List KeyKind) (entity : Entity) : Entity :=
  { entity with columns := entity.columns.modify j fun column => { column with keys } }

/-- Gives keys to the column at a position of the entity at a position. -/
def withKeys (i j : Nat) (keys : List KeyKind) (plan : EntityRelation) : EntityRelation :=
  { plan with entities := plan.entities.modify i (Entity.withKeys j keys) }

/-- The column at a position of the entity at a position. -/
def column? (i j : Nat) (plan : EntityRelation) : Option Column :=
  plan.entities[i]?.bind fun entity => entity.columns[j]?

end EntityRelation

namespace Schema

open Repair (Inserted IsPart canonicalKey column? column?_modifyColumn keyEntries? recipe withKeys)

/-- The way to the column at a position of the entity at a position. -/
def columnPath (i j : Nat) : Path := [⟨"entities", i⟩, ⟨"columns", j⟩]

/-- The check of a key list. -/
def keyList (path : Path) (entries : List Json) : Checked (List KeyKind) :=
  (entries.mapM (Element.keyEntry ⟨path, []⟩ "keys")).map List.eraseDups

section Checks

variable {path : Path} {plan fields column : Fields} {i j : Nat} {entries : List Json}
  {entity : EntityRelation.Entity} {typed : EntityRelation}

/-- What the check of an entity consists of. -/
theorem parts_of_entity (h : Schema.entity ⟨path, fields⟩ = .ok entity) :
    Element.identifier ⟨path, fields⟩ "name" = .ok entity.name ∧
      ∃ items, fields.items? "columns" = some items ∧
        checkAll path "columns" Schema.column items = .ok entity.columns := by
  obtain ⟨name, hname, h⟩ := bind_eq_ok_iff.1 h
  obtain ⟨items, hitems, h⟩ := bind_eq_ok_iff.1 h
  obtain ⟨columns, hcolumns, h⟩ := bind_eq_ok_iff.1 h
  cases h
  exact ⟨hname, items, Element.array_eq_ok_iff.1 hitems, hcolumns⟩

/-- What the check of a plan consists of. -/
theorem parts_of_entityRelation (h : entityRelation (.object plan) = .ok typed) :
    ∃ items links, plan.items? "entities" = some items ∧ plan.items? "relationships" = some links ∧
      checkAll [] "entities" Schema.entity items = .ok typed.entities ∧
      checkAll [] "relationships"
        (entityRelationship (typed.entities.map EntityRelation.Entity.name)) links =
          .ok typed.relationships := by
  obtain ⟨⟨items, links⟩, hcollections, h⟩ := bind_eq_ok_iff.1 h
  obtain ⟨entities, hentities, h⟩ := bind_eq_ok_iff.1 h
  obtain ⟨relationships, hrelationships, h⟩ := bind_eq_ok_iff.1 h
  cases h
  obtain ⟨hitems, hlinks⟩ := collections_eq_ok_iff.1 hcollections
  exact ⟨items, links, hitems, hlinks, hentities, hrelationships⟩

/-- The column at a position of a plan passes as the column there. -/
theorem exists_column_of_entityRelation (h : entityRelation (.object plan) = .ok typed)
    (hcolumn : column? i j plan = some column) :
    ∃ c, typed.column? i j = some c ∧ Schema.column ⟨columnPath i j, column⟩ = .ok c := by
  obtain ⟨fields, hfields, hcolumn⟩ := Option.bind_eq_some_iff.1 hcolumn
  obtain ⟨entities, _, hentities, -, hcheck, -⟩ := parts_of_entityRelation h
  rw [Fields.element?_eq_some_iff_of_items? hentities] at hfields
  obtain ⟨entity, hget, hentity⟩ := exists_getElem?_of_checkAll hcheck hfields
  obtain ⟨-, columns, hcolumns, hcheck⟩ := parts_of_entity hentity
  rw [Fields.element?_eq_some_iff_of_items? hcolumns] at hcolumn
  obtain ⟨c, hget', hc⟩ := exists_getElem?_of_checkAll hcheck hcolumn
  exact ⟨c, Option.bind_eq_some_iff.2 ⟨entity, hget, hget'⟩, hc⟩

theorem column_set_keys {c : EntityRelation.Column} (h : Schema.column ⟨path, fields⟩ = .ok c) :
    Schema.column ⟨path, fields.set "keys" (.array entries)⟩ =
      (keyList path entries).map fun keys => { c with keys } := by
  obtain ⟨name, hname, h⟩ := bind_eq_ok_iff.1 h
  obtain ⟨dataType, htype, h⟩ := bind_eq_ok_iff.1 h
  obtain ⟨old, -, h⟩ := bind_eq_ok_iff.1 h
  cases h
  have hother : ∀ field s, "keys" ≠ field → Element.string ⟨path, fields⟩ field = .ok s →
      Element.string ⟨path, fields.set "keys" (.array entries)⟩ field = .ok s := by
    intro field s hne hs
    rw [Element.string_eq_ok_iff] at hs ⊢
    exact (Fields.text?_set_of_ne hne).trans hs
  have hkeys : Element.keys ⟨path, fields.set "keys" (.array entries)⟩ "keys" =
      keyList path entries := by
    rw [Element.keys, Element.array_eq_ok_iff.2 Fields.items?_set_self]
    rfl
  rw [Schema.column, hother "name" name (by decide) hname,
    hother "type" dataType (by decide) htype, hkeys]
  rfl

theorem entity_set_keys (h : Schema.entity ⟨path, fields⟩ = .ok entity)
    (hcolumn : fields.element? "columns" j = some column) :
    Schema.entity ⟨path, fields.modifyElement "columns" j (Fields.set "keys" (.array entries))⟩ =
      (keyList (path ++ [⟨"columns", j⟩]) entries).map fun keys => entity.withKeys j keys := by
  obtain ⟨hname, items, hitems, hcheck⟩ := parts_of_entity h
  rw [Fields.element?_eq_some_iff_of_items? hitems] at hcolumn
  have hname' : Element.identifier
      ⟨path, fields.modifyElement "columns" j (Fields.set "keys" (.array entries))⟩ "name" =
        .ok entity.name := by
    rw [Element.identifier_eq_ok_iff] at hname ⊢
    exact ⟨(Fields.text?_modifyElement_of_ne (by decide) ..).trans hname.1, hname.2⟩
  have hitems' : Element.array
      ⟨path, fields.modifyElement "columns" j (Fields.set "keys" (.array entries))⟩ "columns" =
        .ok (items.modify j (Json.mapFields (Fields.set "keys" (.array entries)))) := by
    rw [Element.array_eq_ok_iff, Fields.items?_modifyElement, hitems, Option.map_some]
  have hcheck' : checkAll path "columns" Schema.column
      (items.modify j (Json.mapFields (Fields.set "keys" (.array entries)))) =
        (keyList (path ++ [⟨"columns", j⟩]) entries).map fun keys =>
          entity.columns.modify j fun c => { c with keys } :=
    checkAll_modify hcheck hcolumn fun c hc => column_set_keys hc
  rw [Schema.entity, hname', hitems']
  show (checkAll path "columns" Schema.column _ >>= _) = _
  rw [hcheck']
  cases keyList (path ++ [⟨"columns", j⟩]) entries <;> rfl

/-- **The check of the keys of one column decides** on a plan that passes with other keys there. -/
theorem entityRelation_withKeys (h : entityRelation (.object plan) = .ok typed)
    (hcolumn : column? i j plan = some column) :
    entityRelation (.object (withKeys i j (.array entries) plan)) =
      (keyList (columnPath i j) entries).map fun keys => typed.withKeys i j keys := by
  obtain ⟨fields, hfields, hcolumn⟩ := Option.bind_eq_some_iff.1 hcolumn
  obtain ⟨items, links, hitems, hlinks, hcheck, hrelationships⟩ := parts_of_entityRelation h
  rw [Fields.element?_eq_some_iff_of_items? hitems] at hfields
  have hcollections : collections "entities" "relationships"
      (.object (withKeys i j (.array entries) plan)) =
        .ok (items.modify i (Json.mapFields
          (Fields.modifyElement "columns" j (Fields.set "keys" (.array entries)))), links) := by
    refine collections_eq_ok_iff.2 ⟨?_, ?_⟩
    · refine (Fields.items?_modifyElement ..).trans ?_
      rw [hitems, Option.map_some]
    · exact (Fields.items?_modifyElement_of_ne (by decide) ..).trans hlinks
  have hcheck' : checkAll [] "entities" Schema.entity (items.modify i (Json.mapFields
      (Fields.modifyElement "columns" j (Fields.set "keys" (.array entries))))) =
        (keyList (columnPath i j) entries).map fun keys =>
          typed.entities.modify i (EntityRelation.Entity.withKeys j keys) :=
    checkAll_modify hcheck hfields fun entity hentity => entity_set_keys hentity hcolumn
  have hnames : ∀ keys, (typed.entities.modify i (EntityRelation.Entity.withKeys j keys)).map
      EntityRelation.Entity.name = typed.entities.map EntityRelation.Entity.name := by
    intro keys
    have hname : ∀ entity : EntityRelation.Entity,
        (entity.withKeys j keys).name = id entity.name := fun _ => rfl
    rw [Repair.map_modify hname, List.modify_id]
  rw [entityRelation_eq_checkPlan]
  exact checkPlan_eq_map hcollections hcheck' hnames hrelationships

/-- **A repair takes no column away.** -/
theorem exists_column?_applyFields {i j : Nat} {plan column : Fields}
    (h : column? i j plan = some column) :
    ∃ column', column? i j ((recipe .entityRelation).applyFields plan) = some column' := by
  obtain ⟨entity, hentity, hcolumn⟩ := Option.bind_eq_some_iff.1 h
  obtain ⟨entities, hentities, hentity⟩ := Fields.element?_eq_some_iff.1 hentity
  obtain ⟨columns, hcolumns, hcolumn⟩ := Fields.element?_eq_some_iff.1 hcolumn
  obtain ⟨entities', hentities', hframes⟩ :=
    (Repair.planFrame_applyFields .entityRelation plan).elements entities hentities
  obtain ⟨item, hitem, hplace⟩ := exists_getElem?_of_forall₂ hframes hentity
  obtain ⟨entity', rfl, hframe⟩ := hplace.exists_object
  have hmended := hframe.columns rfl
  rw [Fields.get?_of_items? hcolumns] at hmended
  generalize hcolumns' : Fields.get? "columns" entity' = after at hmended
  cases hmended with
  | unset h => rcases h with h | h <;> cases h
  | columns hframes =>
      obtain ⟨item', hitem', hplace'⟩ := exists_getElem?_of_forall₂ hframes hcolumn
      obtain ⟨column', rfl, -⟩ := hplace'.exists_object
      refine ⟨column', Option.bind_eq_some_iff.2 ⟨entity', ?_, ?_⟩⟩
      · exact Fields.element?_eq_some_iff.2 ⟨entities', hentities', hitem⟩
      · exact Fields.element?_eq_some_iff.2
          ⟨_, Fields.items?_eq_some_iff.2 hcolumns', hitem'⟩
  | other _ hitems => cases hitems

end Checks

/-! ### What the texts mean -/

section Texts

variable {path : Path} {texts parts : List String}

/-- The keys that texts mean, or the first text that means none. -/
def meantKeys (path : Path) (texts : List String) : Checked (List KeyKind) :=
  texts.mapM fun text => require (Vocabulary.ofLoose? text)
    (.unknownWord path "keys" text (Vocabulary.expected KeyKind))

/-- **A mended text passes as the key that it meant.** -/
theorem keyEntry_canonicalKey (e : Element) (field text : String) :
    e.keyEntry field (canonicalKey (.string text)) = require (Vocabulary.ofLoose? text)
      (.unknownWord e.path field text (Vocabulary.expected KeyKind)) := by
  have hmeans : (Json.string text).text?.bind Vocabulary.ofLoose? =
      (Vocabulary.ofLoose? text : Option KeyKind) := by rw [Json.text?, Option.bind_some]
  cases hkey : (Vocabulary.ofLoose? text : Option KeyKind) with
  | some key =>
      rw [Repair.canonicalKey_eq_spelling_iff.2 (hmeans.trans hkey)]
      exact Element.keyEntry_eq_ok_iff.2 rfl
  | none =>
      have hsame : canonicalKey (.string text) = .string text := by
        rw [canonicalKey, hmeans, hkey]
      -- a spelling would have meant its word
      have hspelling : (Vocabulary.ofSpelling? text : Option KeyKind) = none := by
        cases h : (Vocabulary.ofSpelling? text : Option KeyKind) with
        | none => rfl
        | some key =>
            rw [Vocabulary.spelling_of_ofSpelling? h, Vocabulary.Lawful.ofLoose?_spelling] at hkey
            cases hkey
      have htext : require (Json.string text).text? (.notAStringArray e.path field) =
          .ok text := rfl
      rw [hsame, Element.keyEntry, htext, ← hspelling]
      rfl

/-- The check of mended texts. -/
theorem keyList_map_canonicalKey (path : Path) (texts : List String) :
    keyList path ((texts.map .string).map canonicalKey) =
      (meantKeys path texts).map List.eraseDups := by
  simp only [keyList, meantKeys, List.mapM_map, Function.comp_def, keyEntry_canonicalKey]

/-- **Spaces in front of texts do not matter:** both lists mean the same keys, or both have the same
first text that means none. -/
theorem meantKeys_agree (path : Path) (h : List.Forall₂ IsPart texts parts) :
    (∃ keys, texts.map Vocabulary.ofLoose? = keys.map some ∧ meantKeys path texts = .ok keys ∧
        meantKeys path parts = .ok keys) ∨
      ∃ before text after part, texts = before ++ text :: after ∧
        (∀ text' ∈ before, (Vocabulary.ofLoose? text' : Option KeyKind) ≠ none) ∧
        (Vocabulary.ofLoose? text : Option KeyKind) = none ∧ IsPart text part ∧
        meantKeys path texts =
          .error (.unknownWord path "keys" text (Vocabulary.expected KeyKind)) ∧
        meantKeys path parts =
          .error (.unknownWord path "keys" part (Vocabulary.expected KeyKind)) := by
  induction h with
  | nil => exact .inl ⟨[], rfl, rfl, rfl⟩
  | @cons text part texts parts hpart _ ih =>
      have hsame : (Vocabulary.ofLoose? part : Option KeyKind) = _ := hpart.ofLoose?_eq
      simp only [meantKeys, List.mapM_cons, hsame] at ih ⊢
      cases hkey : (Vocabulary.ofLoose? text : Option KeyKind) with
      | none =>
          exact .inr ⟨[], text, texts, part, rfl, fun _ h => (nomatch h), hkey, hpart, rfl, rfl⟩
      | some key =>
          rcases ih with ⟨keys, hkeys, htexts, hparts⟩ |
            ⟨before, text', after, part', rfl, hbefore, hnone, hpart', htexts, hparts⟩
          · refine .inl ⟨key :: keys, ?_, ?_, ?_⟩
            · rw [List.map_cons, hkey, hkeys, List.map_cons]
            · rw [htexts]
              rfl
            · rw [hparts]
              rfl
          · refine .inr ⟨text :: before, text', after, part', rfl, ?_, hnone, hpart', ?_, ?_⟩
            · exact List.forall_mem_cons.2 ⟨hkey ▸ Option.some_ne_none key, hbefore⟩
            · rw [htexts]
              rfl
            · rw [hparts]
              rfl

end Texts

/-! ### The two ways -/

/-- A candidate with other keys in one of its columns, repaired and checked. -/
def checkedWithKeys (i j : Nat) (keys : Json) (plan : Fields) : Except Defect Plan :=
  Plan.ofJson .entityRelation ((Json.object (withKeys i j keys plan)).repair .entityRelation)

/-- What becomes of a plan in which a column is given texts as its keys, in one way and in the
other: it passes with the keys that the texts mean, later repetitions left out, or it is turned down
at the column on the first text that means no key. -/
inductive KeysAgree (typed : EntityRelation) (i j : Nat) (texts : List String) :
    Except Defect Plan → Except Defect Plan → Prop
  | accepted {meanings keys : List KeyKind}
      (hmeanings : texts.map Vocabulary.ofLoose? = meanings.map some)
      (hkeys : FirstOccurrences meanings keys) :
      KeysAgree typed i j texts (.ok (.entityRelation (typed.withKeys i j keys)))
        (.ok (.entityRelation (typed.withKeys i j keys)))
  | rejected {before after : List String} {text part : String}
      (htexts : texts = before ++ text :: after)
      (hbefore : ∀ text' ∈ before, (Vocabulary.ofLoose? text' : Option KeyKind) ≠ none)
      (hnone : (Vocabulary.ofLoose? text : Option KeyKind) = none) (hpart : IsPart text part) :
      KeysAgree typed i j texts
        (.error (.unknownWord (columnPath i j) "keys" part (Vocabulary.expected KeyKind)))
        (.error (.unknownWord (columnPath i j) "keys" text (Vocabulary.expected KeyKind)))

section Ways

variable {plan column : Fields} {typed : EntityRelation} {i j : Nat} {keys : Json}
  {texts : List String}

/-- The repaired candidate without keys in the column. -/
theorem repaired_of_empty (hcolumn : column? i j plan = some column)
    (hempty : checkedWithKeys i j (.array []) plan = .ok (.entityRelation typed)) :
    entityRelation
        (.object (withKeys i j (.array []) ((recipe .entityRelation).applyFields plan))) =
      .ok typed ∧
      ∃ column' : Fields, column? i j
        (withKeys i j (.array []) ((recipe .entityRelation).applyFields plan)) =
          some (column'.set "keys" (.array [])) := by
  obtain ⟨column', hcolumn'⟩ := exists_column?_applyFields hcolumn
  constructor
  · obtain ⟨typed', htyped, h⟩ := map_eq_ok_iff.1 hempty
    cases h
    have hentries : keyEntries? (some (.array [])) = some [] := rfl
    have hrepair := Repair.applyFields_withKeys hentries i j plan
    rw [← htyped]
    exact congrArg (fun fields => entityRelation (.object fields)) hrepair.symm
  · refine ⟨column', ?_⟩
    rw [withKeys, column?_modifyColumn, hcolumn', Option.map_some]

/-- **The texts decide,** in whichever way they are written. -/
theorem checkedWithKeys_eq_map (hcolumn : column? i j plan = some column)
    (hempty : checkedWithKeys i j (.array []) plan = .ok (.entityRelation typed))
    (hentries : keyEntries? (some keys) = some (texts.map .string)) :
    checkedWithKeys i j keys plan = (meantKeys (columnPath i j) texts).map fun meanings =>
      .entityRelation (typed.withKeys i j meanings.eraseDups) := by
  obtain ⟨htyped, column', hcolumn'⟩ := repaired_of_empty hcolumn hempty
  have hrepair : (Json.object (withKeys i j keys plan)).repair .entityRelation =
      .object (withKeys i j (.array ((texts.map .string).map canonicalKey))
        (withKeys i j (.array []) ((recipe .entityRelation).applyFields plan))) := by
    rw [Repair.withKeys_withKeys]
    exact congrArg Json.object (Repair.applyFields_withKeys hentries i j plan)
  rw [checkedWithKeys, hrepair]
  show (entityRelation _).map Plan.entityRelation = _
  rw [entityRelation_withKeys htyped hcolumn', keyList_map_canonicalKey, map_map, map_map]
  rfl

/-- The column has no keys in the typed plan without keys. -/
theorem keys_of_empty (hcolumn : column? i j plan = some column)
    (hempty : checkedWithKeys i j (.array []) plan = .ok (.entityRelation typed)) :
    (typed.column? i j).map EntityRelation.Column.keys = some [] := by
  obtain ⟨htyped, column', hcolumn'⟩ := repaired_of_empty hcolumn hempty
  obtain ⟨c, hc, hcheck⟩ := exists_column_of_entityRelation htyped hcolumn'
  obtain ⟨entries, hentries, hfirst⟩ := (column_eq_ok_iff.1 hcheck).keys
  rw [Fields.items?_set_self, Option.some.injEq, eq_comm, List.map_eq_nil_iff] at hentries
  rw [hentries, firstOccurrences_iff] at hfirst
  rw [hc, Option.map_some, ← hfirst]
  rfl

/-- **The array and the text of some texts agree,** since they have the same entries, up to the
spaces behind the commas. -/
theorem keysAgree_checkedWithKeys (hcolumn : column? i j plan = some column)
    (hempty : checkedWithKeys i j (.array []) plan = .ok (.entityRelation typed))
    (htexts : ∀ text ∈ texts, ',' ∉ text.toList ∧ Text.isBlankText text = false) :
    KeysAgree typed i j texts (checkedWithKeys i j (.string (", ".intercalate texts)) plan)
      (checkedWithKeys i j (.array (texts.map .string)) plan) := by
  have htext := Repair.keyEntries?_intercalate_spaced htexts
  have harray : keyEntries? (some (.array (texts.map .string))) = some (texts.map .string) := rfl
  rw [checkedWithKeys_eq_map hcolumn hempty htext, checkedWithKeys_eq_map hcolumn hempty harray]
  rcases meantKeys_agree (columnPath i j) (Repair.forall₂_spaced texts) with
    ⟨meanings, hmeanings, htexts, hparts⟩ |
      ⟨before, text, after, part, hsplit, hbefore, hnone, hpart, htexts, hparts⟩
  · rw [htexts, hparts]
    exact .accepted hmeanings (firstOccurrences_eraseDups meanings)
  · rw [htexts, hparts]
    exact .rejected hsplit hbefore hnone hpart

end Ways

/-- **The two ways to write the keys of a column agree.**  Let a plan pass when one of its columns
is given an empty key list.  Given some texts as its keys, none of them blank or with a comma, in
one text with a comma and a space between two of them or in an array, the plan passes in both cases
with the keys that the texts mean, later repetitions left out, or is turned down in both cases at
that column on the first text that means no key.  Blank parts may be inserted between the commas of
the one text: the repaired plan is the same. -/
theorem keysAgree_of_texts (plan column : Fields) (typed : EntityRelation) (i j : Nat)
    (texts : List String) (hcolumn : column? i j plan = some column)
    (hempty : checkedWithKeys i j (.array []) plan = .ok (.entityRelation typed))
    (htexts : ∀ text ∈ texts, ',' ∉ text.toList ∧ Text.isBlankText text = false) :
    (typed.column? i j).map EntityRelation.Column.keys = some [] ∧
      KeysAgree typed i j texts (checkedWithKeys i j (.string (", ".intercalate texts)) plan)
        (checkedWithKeys i j (.array (texts.map .string)) plan) ∧
      ∀ parts parts' : List String, ",".intercalate parts = ", ".intercalate texts →
        (∀ part ∈ parts', ',' ∉ part.toList) →
        Inserted (fun part => Text.isBlankText part = true) parts parts' →
          (Json.object (withKeys i j (.string (",".intercalate parts')) plan)).repair
              .entityRelation =
            (Json.object (withKeys i j (.string (", ".intercalate texts)) plan)).repair
              .entityRelation := by
  refine ⟨keys_of_empty hcolumn hempty, keysAgree_checkedWithKeys hcolumn hempty htexts, ?_⟩
  intro parts parts' hjoin hcomma hinserted
  have hentries := Repair.keyEntries?_intercalate_spaced htexts
  have hentries' := Repair.keyEntries?_of_inserted hcomma hinserted
  rw [hjoin, hentries] at hentries'
  exact congrArg Json.object ((Repair.applyFields_withKeys hentries' i j plan).trans
    (Repair.applyFields_withKeys hentries i j plan).symm)

/-- A plan with one table, the second column of which has no keys. -/
def keyless : Fields :=
  [("entities", .array [.object [("name", .string "Order"), ("columns", .array
      [.object [("name", .string "id"), ("type", .string "int"), ("keys", .string "pk")],
        .object [("name", .string "user"), ("type", .string "int")]])]]),
    ("relationships", .array [])]

/-- `keyless` with keys in its second column. -/
def keyed (keys : List KeyKind) : EntityRelation :=
  ⟨[⟨"Order", [⟨"id", "int", [.primary]⟩, ⟨"user", "int", keys⟩]⟩], []⟩

/-- `keysAgree_of_texts` at work: a key that is given twice counts once, `UQ` is no key, and blank
parts make no difference. -/
theorem keysAgree_of_texts_keyless :
    KeysAgree (keyed []) 0 1 ["fk", "Primary-Key", "references"]
        (checkedWithKeys 0 1 (.string "fk, Primary-Key, references") keyless)
        (checkedWithKeys 0 1
          (.array [.string "fk", .string "Primary-Key", .string "references"]) keyless) ∧
      checkedWithKeys 0 1 (.string "fk, Primary-Key, references") keyless =
        .ok (.entityRelation (keyed [.foreign, .primary])) ∧
      (Json.object (withKeys 0 1 (.string ",fk, ,, Primary-Key, references,") keyless)).repair
          .entityRelation =
        (Json.object (withKeys 0 1 (.string "fk, Primary-Key, references") keyless)).repair
          .entityRelation ∧
      KeysAgree (keyed []) 0 1 ["pk", "UQ"] (checkedWithKeys 0 1 (.string "pk, UQ") keyless)
        (checkedWithKeys 0 1 (.array [.string "pk", .string "UQ"]) keyless) ∧
      checkedWithKeys 0 1 (.string "pk, UQ") keyless =
        .error (.unknownWord [⟨"entities", 0⟩, ⟨"columns", 1⟩] "keys" " UQ" "'PK', 'FK'") := by
  have hempty : checkedWithKeys 0 1 (.array []) keyless = .ok (.entityRelation (keyed [])) := by
    decide +kernel
  obtain ⟨-, hagree, hblank⟩ := keysAgree_of_texts keyless _ (keyed []) 0 1
    ["fk", "Primary-Key", "references"] rfl hempty (by decide +kernel)
  obtain ⟨-, hagree', -⟩ := keysAgree_of_texts keyless _ (keyed []) 0 1 ["pk", "UQ"] rfl hempty
    (by decide +kernel)
  refine ⟨hagree, by decide +kernel, ?_, hagree', by decide +kernel⟩
  exact hblank ["fk", " Primary-Key", " references"]
    ["", "fk", " ", "", " Primary-Key", " references", ""] (by decide +kernel) (by decide +kernel)
    (.insert rfl (.keep (.insert rfl (.insert rfl (.keep (.keep (.insert rfl .nil)))))))

end Schema
end CodeDiagram
