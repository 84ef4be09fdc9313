/-
# Which candidate plans pass after their repair

The repair of a sequence, a class diagram or an entity-relation diagram drops
no element, so every element of the candidate has to be mendable, and so has
every link that survives.  What that asks for can be read off the candidate
(`Mendable`), without repairing it:

| kind | element | link |
| --- | --- | --- |
| sequence | text `alias` | text `label`, `type` that means a step |
| class | text `id`, lists `properties`?, `methods`? | `type` that means a relation, text `label`? |
| entity relation | text `name`, list `columns`? | `cardinality` that means a token, text `label` |
| – its columns | text `name`, text `type`, `keys`? that mean keys | |

What is marked `?` may be absent or null.

Names, ends and missing descriptions are the business of the repair.  An
element or a link passes after its repair exactly when it was mendable before
(the `exists_describes_` theorems), so a candidate with both collections passes
exactly when all of them are (`diagram_eq_ok_iff_mendable`).
-/

import CodeDiagram.Pipeline
import CodeDiagram.Proofs.Schema.Reading
import CodeDiagram.Proofs.Schema.SafeNames

namespace CodeDiagram

open Json (Fields)
open Identifier (Table)
open Repair (recipe rewired? repairedElements repairedLinks survivingLinks isUnset)

namespace Schema

variable {α β γ : Type} {kind : Kind} {plan : Json}

/-! ### What can be mended -/

namespace Mendable

/-- The item is an object whose fields can be mended. -/
def Item (mendable : Fields → Prop) (item : Json) : Prop :=
  ∃ fields, item = .object fields ∧ mendable fields

/-- The field holds a string. -/
def Text (field : String) (fields : Fields) : Prop := ∃ s, fields.text? field = some s

/-- The field is absent, null or an array of strings. -/
def Texts (field : String) (fields : Fields) : Prop :=
  isUnset field fields = true ∨
    ∃ texts : List String, fields.items? field = some (texts.map .string)

/-- The text means a word, loosely spelled. -/
def Means (α : Type) [Vocabulary α] (s : String) : Prop :=
  ∃ word : α, Vocabulary.ofLoose? s = some word

/-- The field holds a string that means a word. -/
def Word (α : Type) [Vocabulary α] (field : String) (fields : Fields) : Prop :=
  ∃ s, fields.text? field = some s ∧ Means α s

/-- The keys are absent or null, a string whose parts between commas mean keys or are blank, or an
array of strings that mean keys. -/
inductive Keys (column : Fields) : Prop
  | unset : isUnset "keys" column = true → Keys column
  | parts (s : String) : column.text? "keys" = some s →
      (∀ part ∈ Repair.commaParts s.toList, part.all Text.isBlank = false →
        Means KeyKind (String.ofList part)) → Keys column
  | texts (texts : List String) : column.items? "keys" = some (texts.map .string) →
      (∀ text ∈ texts, Means KeyKind text) → Keys column

structure Column (column : Fields) : Prop where
  name : Text "name" column
  dataType : Text "type" column
  keys : Keys column

structure Participant (participant : Fields) : Prop where
  id : Text "alias" participant

structure Step (step : Fields) : Prop where
  label : Text "label" step
  kind : Word StepKind "type" step

structure ClassBox (box : Fields) : Prop where
  id : Text "id" box
  properties : Texts "properties" box
  methods : Texts "methods" box

structure ClassRelationship (relationship : Fields) : Prop where
  kind : Word RelationKind "type" relationship
  label : Element.isOptionalString "label" relationship = true

/-- The columns are absent, null or an array of columns that can be mended. -/
def Columns (entity : Fields) : Prop :=
  isUnset "columns" entity = true ∨
    ∃ columns, entity.items? "columns" = some columns ∧ ∀ column ∈ columns, Item Column column

structure Entity (entity : Fields) : Prop where
  name : Text "name" entity
  columns : Columns entity

structure EntityRelationship (relationship : Fields) : Prop where
  cardinality : ∃ (raw : String) (c : Cardinality),
    relationship.text? "cardinality" = some raw ∧ Repair.canonicalCardinality raw = c.token
  label : Text "label" relationship

end Mendable

/-! ### Fields -/

section Fields

variable {fields : Fields} {field : String}

/-- A word can be mended if it is read loosely. -/
theorem mendable_word_iff [Vocabulary α] : Mendable.Word α field fields ↔
    ∃ word : α, (fields.text? field).bind Vocabulary.ofLoose? = some word := by
  simp only [Mendable.Word, Mendable.Means, Option.bind_eq_some_iff]
  exact (exists_congr fun _ => exists_and_left.symm).trans exists_comm

/-- A list is empty where there was none, and so passes exactly when it was mendable. -/
theorem exists_texts_iff {items : Option (List Json)}
    (h : items = if isUnset field fields = true then some [] else fields.items? field) :
    (∃ texts : List String, items = some (texts.map .string)) ↔ Mendable.Texts field fields := by
  rw [h, Mendable.Texts]
  split_ifs with hunset
  · exact iff_of_true ⟨[], rfl⟩ (.inl hunset)
  · simp [hunset]

/-- An optional text is described if it is absent, null or a string. -/
theorem exists_optional_iff :
    (∃ text, Describes.Optional field fields text) ↔
      Element.isOptionalString field fields = true := by
  unfold Element.isOptionalString
  constructor
  · rintro ⟨text, htext⟩
    cases text with
    | none => rcases htext with h | h <;> rw [h]
    | some s => rw [Fields.get?_of_text? htext]
  · intro h
    split at h
    · next hget => exact ⟨none, .inl hget⟩
    · next hget => exact ⟨none, .inr hget⟩
    · next s hget => exact ⟨some s, Fields.text?_eq_some_iff.2 hget⟩
    · cases h

end Fields

/-! ### Columns -/

section Columns

variable {column : Fields}

/-- The entry of a key list is a string that means a key. -/
def MeansKey (entry : Json) : Prop :=
  ∃ key : KeyKind, entry.text?.bind Vocabulary.ofLoose? = some key

/-- An entry means a key if it is a string that is read loosely as one. -/
theorem meansKey_iff {entry : Json} :
    MeansKey entry ↔ ∃ s, entry = .string s ∧ Mendable.Means KeyKind s := by
  simp only [MeansKey, Option.bind_eq_some_iff, Json.text?_eq_some_iff]
  exact exists_comm.trans (exists_congr fun _ => exists_and_left)

/-- The keys mean keys when the entries do that the repair makes of them. -/
theorem keys_iff_entries :
    Mendable.Keys column ↔ ∃ entries, Repair.keyEntries? (column.get? "keys") = some entries ∧
      ∀ entry ∈ entries, MeansKey entry := by
  constructor
  · intro h
    cases h with
    | unset hunset =>
        refine ⟨[], ?_, fun _ h => (nomatch h)⟩
        unfold isUnset at hunset
        split at hunset
        · next hget => rw [hget]; rfl
        · next hget => rw [hget]; rfl
        · cases hunset
    | parts s htext hparts =>
        rw [Fields.get?_of_text? htext]
        refine ⟨_, rfl, fun entry hentry => ?_⟩
        obtain ⟨part, hpart, rfl⟩ := List.mem_map.1 hentry
        obtain ⟨hpart, hblank⟩ := List.mem_filter.1 hpart
        exact meansKey_iff.2 ⟨_, rfl, hparts part hpart (by simpa using hblank)⟩
    | texts texts hitems htexts =>
        rw [Fields.get?_of_items? hitems]
        refine ⟨_, rfl, fun entry hentry => ?_⟩
        obtain ⟨text, htext, rfl⟩ := List.mem_map.1 hentry
        exact meansKey_iff.2 ⟨text, rfl, htexts text htext⟩
  · rintro ⟨entries, hentries, hkeys⟩
    cases hget : column.get? "keys" with
    | none => exact .unset (by rw [isUnset, hget])
    | some json =>
        rw [hget] at hentries
        cases json with
        | null => exact .unset (by rw [isUnset, hget])
        | string s =>
            cases hentries
            refine .parts s (Fields.text?_eq_some_iff.2 hget) fun part hpart hblank => ?_
            have hentry := hkeys _
              (List.mem_map.2 ⟨part, List.mem_filter.2 ⟨hpart, by simp [hblank]⟩, rfl⟩)
            obtain ⟨_, hpart, hmeans⟩ := meansKey_iff.1 hentry
            rwa [← Json.string.inj hpart] at hmeans
        | array items =>
            cases hentries
            have hstrings : ∀ item ∈ entries, ∃ text, id item = Json.string text := by
              intro item hitem
              obtain ⟨text, htext, -⟩ := meansKey_iff.1 (hkeys item hitem)
              exact ⟨text, htext⟩
            obtain ⟨texts, htexts⟩ := exists_map_eq_map_iff.2 hstrings
            rw [List.map_id] at htexts
            rw [htexts] at hget hkeys
            refine .texts texts (Fields.items?_eq_some_iff.2 hget) fun text htext => ?_
            obtain ⟨_, hitem, hmeans⟩ := meansKey_iff.1 (hkeys _ (List.mem_map_of_mem htext))
            rwa [← Json.string.inj hitem] at hmeans
        | bool _ => cases hentries
        | number _ => cases hentries
        | object _ => cases hentries

/-- Mended keys are keys just where the keys can be mended. -/
theorem exists_keys_canonicalKeys_iff :
    (∃ entries : List KeyKind, (Repair.canonicalKeys column).items? "keys" =
      some (entries.map fun key => .string (Vocabulary.spelling key))) ↔ Mendable.Keys column := by
  rw [keys_iff_entries, Repair.items?_canonicalKeys]
  simp only [MeansKey, Option.map_eq_some_iff, ← Repair.canonicalKey_eq_spelling_iff]
  rw [exists_comm]
  refine exists_congr fun entries => ?_
  rw [exists_and_left, exists_map_eq_map_iff]

/-- **A column passes after its repair exactly when it was mendable before.** -/
theorem exists_describes_column_iff :
    (∃ c, Describes.Column (Repair.canonicalKeys column) c) ↔ Mendable.Column column := by
  have hlocal := Repair.canonicalKeys_local
  have hname := hlocal.text? (show "name" ∉ ["keys"] by decide) column
  have htype := hlocal.text? (show "type" ∉ ["keys"] by decide) column
  constructor
  · rintro ⟨c, h⟩
    obtain ⟨entries, hentries, -⟩ := h.keys
    exact ⟨⟨_, hname ▸ h.name⟩, ⟨_, htype ▸ h.dataType⟩,
      exists_keys_canonicalKeys_iff.1 ⟨entries, hentries⟩⟩
  · rintro ⟨⟨name, h⟩, ⟨dataType, h'⟩, hkeys⟩
    obtain ⟨entries, hentries⟩ := exists_keys_canonicalKeys_iff.2 hkeys
    exact ⟨⟨name, dataType, entries.eraseDups⟩, hname.trans h, htype.trans h', entries, hentries,
      firstOccurrences_eraseDups entries⟩

/-- A mended column is a column just where it can be mended. -/
theorem exists_describes_canonicalColumn_iff {item : Json} :
    (∃ c, Describes.Item Describes.Column (Repair.canonicalColumn item) c) ↔
      Mendable.Item Mendable.Column item := by
  cases item with
  | object column =>
      simp [Describes.Item, Mendable.Item, Repair.canonicalColumn, exists_describes_column_iff]
  | _ => simp [Describes.Item, Mendable.Item, Repair.canonicalColumn]

/-- The columns of a repaired entity pass exactly when there were none or all were mendable. -/
theorem exists_columns_iff (table : Table) (entity : Fields) :
    (∃ columns, ∃ items, ((recipe .entityRelation).tidyElement
        ((recipe .entityRelation).declare table entity).1).items? "columns" = some items ∧
          List.Forall₂ (Describes.Item Describes.Column) items columns) ↔
      Mendable.Columns entity := by
  rw [exists_comm, Mendable.Columns]
  simp only [exists_and_left, exists_forall₂_iff, Repair.items?_repaired_entity]
  split_ifs with hunset
  · simp [hunset]
  · simp [hunset, exists_describes_canonicalColumn_iff]

end Columns

/-! ### Elements -/

section Elements

variable {table : Table}

/-- An element has a good name after its repair exactly when it had one at all. -/
theorem exists_describes_name_iff (htable : table.naming = kind.naming) (fields : Fields) :
    (∃ id, Describes.Name (recipe kind).nameField
      ((recipe kind).tidyElement ((recipe kind).declare table fields).1) id) ↔
      Mendable.Text (recipe kind).nameField fields := by
  have hname : Fields.text? (recipe kind).nameField
      ((recipe kind).tidyElement ((recipe kind).declare table fields).1) =
        (Fields.text? (recipe kind).nameField fields).map fun raw => (table.declare raw).1 :=
    Repair.nameOf?_declareItem table (.object fields)
  constructor
  · rintro ⟨id, hid⟩
    obtain ⟨raw, hraw, -⟩ := Option.map_eq_some_iff.1 (hname.symm.trans hid.text)
    exact ⟨raw, hraw⟩
  · rintro ⟨raw, hraw⟩
    have hadmits : kind.naming.Admits (table.declare raw).1 := by
      rw [← htable]
      exact Table.declare_admits (htable ▸ kind.naming_sound) raw
    rw [hraw, Option.map_some] at hname
    exact ⟨_, hname, isValid_iff_isName.1 hadmits.valid⟩

/-- A repaired participant passes just where it can be mended. -/
theorem exists_describes_participant_iff (htable : table.naming = Kind.sequence.naming)
    (fields : Fields) :
    (∃ p, Describes.Participant
      ((recipe .sequence).tidyElement ((recipe .sequence).declare table fields).1) p) ↔
      Mendable.Participant fields := by
  have hname := exists_describes_name_iff htable fields
  constructor
  · rintro ⟨p, h⟩
    exact ⟨hname.1 ⟨p.id, h.id⟩⟩
  · rintro ⟨hid⟩
    obtain ⟨id, hid⟩ := hname.2 hid
    have hsettled := Repair.settled_declare htable fields
    have hlabel := hsettled.labelled id hid.text "description" rfl
    obtain ⟨description, hdescription, -⟩ := (Option.any_eq_true _ _).1 hlabel
    exact ⟨⟨id, description⟩, hid, hdescription⟩

/-- A repaired class passes just where it can be mended. -/
theorem exists_describes_classBox_iff (htable : table.naming = Kind.classes.naming)
    (fields : Fields) :
    (∃ box, Describes.ClassBox
      ((recipe .classes).tidyElement ((recipe .classes).declare table fields).1) box) ↔
      Mendable.ClassBox fields := by
  have hname := exists_describes_name_iff htable fields
  have hproperties := exists_texts_iff (Repair.items?_repaired_class
    (show "properties" ∈ Repair.tidiedOfElement .classes by decide) table fields)
  have hmethods := exists_texts_iff (Repair.items?_repaired_class
    (show "methods" ∈ Repair.tidiedOfElement .classes by decide) table fields)
  constructor
  · rintro ⟨box, h⟩
    exact ⟨hname.1 ⟨_, h.id⟩, hproperties.1 ⟨_, h.properties⟩, hmethods.1 ⟨_, h.methods⟩⟩
  · intro h
    obtain ⟨id, hid⟩ := hname.2 h.id
    obtain ⟨properties, hproperties⟩ := hproperties.2 h.properties
    obtain ⟨methods, hmethods⟩ := hmethods.2 h.methods
    exact ⟨⟨id, properties, methods⟩, hid, hproperties, hmethods⟩

/-- A repaired entity passes just where it can be mended. -/
theorem exists_describes_entity_iff (htable : table.naming = Kind.entityRelation.naming)
    (fields : Fields) :
    (∃ entity, Describes.Entity ((recipe .entityRelation).tidyElement
      ((recipe .entityRelation).declare table fields).1) entity) ↔ Mendable.Entity fields := by
  have hname := exists_describes_name_iff htable fields
  have hcolumns := exists_columns_iff table fields
  constructor
  · rintro ⟨entity, h⟩
    exact ⟨hname.1 ⟨_, h.name⟩, hcolumns.1 ⟨_, h.columns⟩⟩
  · intro h
    obtain ⟨name, hname⟩ := hname.2 h.name
    obtain ⟨columns, hcolumns⟩ := hcolumns.2 h.columns
    exact ⟨⟨name, columns⟩, hname, hcolumns⟩

end Elements

/-! ### Links -/

section Links

variable {known : List String} {source target : String} {link : Fields}

/-- A rewired link has a good type exactly when its type meant a word. -/
theorem exists_type_rewired_iff [Vocabulary α] [Vocabulary.Lawful α]
    (h : (recipe kind).tidyLink = Repair.canonicalWord α "type") (source target : String)
    (link : Fields) : (∃ word : α, Fields.text? "type" ((recipe kind).rewired source target link) =
      some (Vocabulary.spelling word)) ↔ Mendable.Word α "type" link := by
  simp only [Repair.text?_type_rewired_iff h, mendable_word_iff]

/-- A surviving step passes just where it can be mended. -/
theorem exists_describes_step_iff
    (hends : Describes.Ends known ((recipe .sequence).rewired source target link) source target) :
    (∃ s, Describes.Step known ((recipe .sequence).rewired source target link) s) ↔
      Mendable.Step link := by
  have hmember : "label" ∉ "from" :: "to" :: Repair.tidiedOfLink .sequence := by decide
  have hlabel := Repair.text?_rewired source target hmember link
  have htidy : (recipe .sequence).tidyLink = Repair.canonicalWord StepKind "type" := rfl
  have hkind := exists_type_rewired_iff htidy source target link
  constructor
  · rintro ⟨s, h⟩
    exact ⟨⟨s.label, hlabel.symm.trans h.label⟩, hkind.1 ⟨_, h.kind⟩⟩
  · intro h
    obtain ⟨label, hlabel'⟩ := h.label
    obtain ⟨kind, hkind⟩ := hkind.2 h.kind
    exact ⟨⟨source, target, label, kind⟩, hends, hlabel.trans hlabel', hkind⟩

/-- A surviving relationship of classes passes just where it can be mended. -/
theorem exists_describes_classRelationship_iff
    (hends : Describes.Ends known ((recipe .classes).rewired source target link) source target) :
    (∃ r, Describes.ClassRelationship known ((recipe .classes).rewired source target link) r) ↔
      Mendable.ClassRelationship link := by
  have hmember : "label" ∉ "from" :: "to" :: Repair.tidiedOfLink .classes := by decide
  have hlabel : (∃ text, Describes.Optional "label"
      ((recipe .classes).rewired source target link) text) ↔
        Element.isOptionalString "label" link = true := by
    rw [exists_optional_iff, Element.isOptionalString, Repair.get?_rewired source target hmember]
    rfl
  have htidy : (recipe .classes).tidyLink = Repair.canonicalWord RelationKind "type" := rfl
  have hkind := exists_type_rewired_iff htidy source target link
  constructor
  · rintro ⟨r, h⟩
    exact ⟨hkind.1 ⟨_, h.kind⟩, hlabel.1 ⟨_, h.label⟩⟩
  · intro h
    obtain ⟨kind, hkind⟩ := hkind.2 h.kind
    obtain ⟨label, hlabel⟩ := hlabel.2 h.label
    exact ⟨⟨source, target, kind, label⟩, hends, hkind, hlabel⟩

/-- A surviving relationship of entities passes just where it can be mended. -/
theorem exists_describes_entityRelationship_iff
    (hends : Describes.Ends known ((recipe .entityRelation).rewired source target link)
      source target) :
    (∃ r, Describes.EntityRelationship known
      ((recipe .entityRelation).rewired source target link) r) ↔
        Mendable.EntityRelationship link := by
  have hmember : "label" ∉ "from" :: "to" :: Repair.tidiedOfLink .entityRelation := by decide
  have hlabel := Repair.text?_rewired source target hmember link
  have hcardinality := Repair.text?_cardinality_rewired source target link
  constructor
  · rintro ⟨r, h⟩
    obtain ⟨raw, hraw, htoken⟩ := Option.map_eq_some_iff.1 (hcardinality.symm.trans h.cardinality)
    exact ⟨⟨raw, r.cardinality, hraw, htoken⟩, r.label, hlabel.symm.trans h.label⟩
  · intro h
    obtain ⟨raw, c, hraw, htoken⟩ := h.cardinality
    obtain ⟨label, hlabel'⟩ := h.label
    rw [hraw, Option.map_some, htoken] at hcardinality
    exact ⟨⟨source, target, c, label⟩, hends, hcardinality, hlabel.trans hlabel'⟩

end Links

/-! ### Plans -/

section Plans

variable {describes : Fields → α → Prop} {describesLink : List String → Fields → β → Prop}
  {mendable mendableLink : Fields → Prop} {items links : List Json}

/-- The names of the repaired elements, against which the links are described. -/
abbrev repairedNames (kind : Kind) (plan : Json) : List String :=
  (repairedElements kind plan).filterMap (recipe kind).nameOf?

/-- An item passes after its repair exactly when it was mendable, if objects do. -/
theorem exists_describes_declareItem_iff {table : Table}
    (h : ∀ fields, (∃ a, describes
      ((recipe kind).tidyElement ((recipe kind).declare table fields).1) a) ↔ mendable fields)
    (item : Json) :
    (∃ a, Describes.Item describes ((recipe kind).declareItem table item).1 a) ↔
      Mendable.Item mendable item := by
  cases item with
  | object fields => simp [Describes.Item, Mendable.Item, Repair.Recipe.declareItem, h]
  | _ => simp [Describes.Item, Mendable.Item, Repair.Recipe.declareItem]

/-- A repaired plan describes something exactly when all its elements and links do. -/
theorem exists_describes_repair_iff {name : α → String}
    (hname : ∀ fields a, describes fields a →
      Fields.text? (recipe kind).nameField fields = some (name a))
    (hitems : plan.collection? (recipe kind).elements = some items)
    (hlinks : plan.collection? (recipe kind).links = some links) :
    (∃ as bs, Describes.Collections (recipe kind).elements (recipe kind).links describes name
        describesLink (plan.repair kind) as bs) ↔
      (∀ item ∈ repairedElements kind plan, ∃ a, Describes.Item describes item a) ∧
        ∀ link ∈ repairedLinks kind plan,
          ∃ b, Describes.Item (describesLink (repairedNames kind plan)) link b := by
  have hnames : ∀ as, List.Forall₂ (Describes.Item describes) (repairedElements kind plan) as →
      repairedNames kind plan = as.map name := fun as has => names_of_describes hname has
  rw [← exists_forall₂_iff, ← exists_forall₂_iff]
  constructor
  · rintro ⟨as, bs, ⟨⟨items', hitems', has⟩, links', hlinks', hbs⟩⟩
    rw [Repair.eq_repairedElements hitems'] at has
    rw [Repair.eq_repairedLinks hlinks', ← hnames as has] at hbs
    exact ⟨⟨as, has⟩, bs, hbs⟩
  · rintro ⟨⟨as, has⟩, bs, hbs⟩
    rw [hnames as has] at hbs
    exact ⟨as, bs, ⟨_, Repair.collection?_elements_repair hitems, has⟩, _,
      Repair.collection?_links_repair_of_some hlinks, hbs⟩

/-- **A candidate passes after its repair exactly when all its elements and surviving links were
mendable**, where no element is dropped and one element or link passes exactly when it was
mendable. -/
theorem exists_describes_repair_iff_mendable {name : α → String}
    (hkeeps : ∀ item, (recipe kind).keeps item = true)
    (hname : ∀ fields a, describes fields a →
      Fields.text? (recipe kind).nameField fields = some (name a))
    (helement : ∀ table : Table, table.naming = kind.naming → ∀ fields,
      (∃ a, describes ((recipe kind).tidyElement ((recipe kind).declare table fields).1) a) ↔
        mendable fields)
    (hlink : ∀ known source target link,
      Describes.Ends known ((recipe kind).rewired source target link) source target →
        ((∃ b, describesLink known ((recipe kind).rewired source target link) b) ↔
          mendableLink link))
    (hitems : plan.collection? (recipe kind).elements = some items)
    (hlinks : plan.collection? (recipe kind).links = some links) :
    (∃ as bs, Describes.Collections (recipe kind).elements (recipe kind).links describes name
        describesLink (plan.repair kind) as bs) ↔
      (∀ item ∈ items, Mendable.Item mendable item) ∧
        ∀ link ∈ survivingLinks kind plan, Mendable.Item mendableLink link := by
  rw [exists_describes_repair_iff hname hitems hlinks]
  refine and_congr ?_ (Repair.forall_mem_repairedLinks_iff fun item item' hitem => ?_)
  · rw [(Repair.repairedElements_eq_declareAll hitems fun item _ => hkeeps item).2]
    exact (recipe kind).forall_mem_declareAll_iff
      (fun table item htable => exists_describes_declareItem_iff (helement table htable) item)
      (Repair.recipe_naming kind)
  · obtain ⟨link, source, target, rfl, rfl, hsource, htarget⟩ := Repair.exists_of_rewired? hitem
    have hends : Describes.Ends (repairedNames kind plan)
        ((recipe kind).rewired source target link) source target :=
      ⟨⟨Repair.text?_from_rewired kind source target link,
          isValid_iff_isName.1 (Repair.admits_of_mem_names hsource).valid⟩,
        ⟨Repair.text?_to_rewired kind source target link,
          isValid_iff_isName.1 (Repair.admits_of_mem_names htarget).valid⟩, hsource, htarget⟩
    simp [Describes.Item, Mendable.Item, hlink _ _ _ _ hends]

/-- A diagram comes about exactly when the repaired candidate is read as a plan. -/
theorem exists_diagram_eq_ok_iff :
    (∃ text, plan.diagram kind = .ok text) ↔
      ∃ typed, Plan.ofJson kind (plan.repair kind) = .ok typed := by
  simp only [Json.diagram, map_eq_ok_iff]
  exact ⟨fun ⟨_, typed, h, _⟩ => ⟨typed, h⟩, fun ⟨typed, h⟩ => ⟨_, typed, h, rfl⟩⟩

theorem exists_diagram_sequence_iff {participants steps : List Json}
    (hparticipants : plan.collection? "participants" = some participants)
    (hsteps : plan.collection? "steps" = some steps) :
    (∃ text, plan.diagram .sequence = .ok text) ↔
      (∀ item ∈ participants, Mendable.Item Mendable.Participant item) ∧
        ∀ link ∈ survivingLinks .sequence plan, Mendable.Item Mendable.Step link := by
  rw [exists_diagram_eq_ok_iff, ← exists_describes_repair_iff_mendable (fun _ => rfl)
    (fun _ _ h => h.id.text) (fun _ htable => exists_describes_participant_iff htable)
    (fun _ _ _ _ => exists_describes_step_iff) hparticipants hsteps]
  simp only [Plan.ofJson, map_eq_ok_iff, sequence_eq_ok_iff]
  constructor
  · rintro ⟨_, p, h, rfl⟩
    exact ⟨p.participants, p.steps, h⟩
  · rintro ⟨as, bs, h⟩
    exact ⟨_, ⟨as, bs⟩, h, rfl⟩

theorem exists_diagram_classes_iff {classes relationships : List Json}
    (hclasses : plan.collection? "classes" = some classes)
    (hrelationships : plan.collection? "relationships" = some relationships) :
    (∃ text, plan.diagram .classes = .ok text) ↔
      (∀ item ∈ classes, Mendable.Item Mendable.ClassBox item) ∧
        ∀ link ∈ survivingLinks .classes plan, Mendable.Item Mendable.ClassRelationship link := by
  rw [exists_diagram_eq_ok_iff, ← exists_describes_repair_iff_mendable (fun _ => rfl)
    (fun _ _ h => h.id.text) (fun _ htable => exists_describes_classBox_iff htable)
    (fun _ _ _ _ => exists_describes_classRelationship_iff) hclasses hrelationships]
  simp only [Plan.ofJson, map_eq_ok_iff, classDiagram_eq_ok_iff]
  constructor
  · rintro ⟨_, p, h, rfl⟩
    exact ⟨p.classes, p.relationships, h⟩
  · rintro ⟨as, bs, h⟩
    exact ⟨_, ⟨as, bs⟩, h, rfl⟩

theorem exists_diagram_entityRelation_iff {entities relationships : List Json}
    (hentities : plan.collection? "entities" = some entities)
    (hrelationships : plan.collection? "relationships" = some relationships) :
    (∃ text, plan.diagram .entityRelation = .ok text) ↔
      (∀ item ∈ entities, Mendable.Item Mendable.Entity item) ∧
        ∀ link ∈ survivingLinks .entityRelation plan,
          Mendable.Item Mendable.EntityRelationship link := by
  rw [exists_diagram_eq_ok_iff, ← exists_describes_repair_iff_mendable (fun _ => rfl)
    (fun _ _ h => h.name.text) (fun _ htable => exists_describes_entity_iff htable)
    (fun _ _ _ _ => exists_describes_entityRelationship_iff) hentities hrelationships]
  simp only [Plan.ofJson, map_eq_ok_iff, entityRelation_eq_ok_iff]
  constructor
  · rintro ⟨_, p, h, rfl⟩
    exact ⟨p.entities, p.relationships, h⟩
  · rintro ⟨as, bs, h⟩
    exact ⟨_, ⟨as, bs⟩, h, rfl⟩

/-- **A candidate with both collections becomes a diagram exactly when its elements and its
surviving links can be mended**, for the three kinds whose repair drops no element.  Every element
counts, also one that no link joins, but of the links only those whose two ends mean elements. -/
theorem diagram_eq_ok_iff_mendable (plan : Json) :
    (∀ participants steps, plan.collection? "participants" = some participants →
      plan.collection? "steps" = some steps →
        ((∃ text, plan.diagram .sequence = .ok text) ↔
          (∀ item ∈ participants, Mendable.Item Mendable.Participant item) ∧
            ∀ link ∈ survivingLinks .sequence plan, Mendable.Item Mendable.Step link)) ∧
      (∀ classes relationships, plan.collection? "classes" = some classes →
        plan.collection? "relationships" = some relationships →
          ((∃ text, plan.diagram .classes = .ok text) ↔
            (∀ item ∈ classes, Mendable.Item Mendable.ClassBox item) ∧
              ∀ link ∈ survivingLinks .classes plan,
                Mendable.Item Mendable.ClassRelationship link)) ∧
      ∀ entities relationships, plan.collection? "entities" = some entities →
        plan.collection? "relationships" = some relationships →
          ((∃ text, plan.diagram .entityRelation = .ok text) ↔
            (∀ item ∈ entities, Mendable.Item Mendable.Entity item) ∧
              ∀ link ∈ survivingLinks .entityRelation plan,
                Mendable.Item Mendable.EntityRelationship link) :=
  ⟨fun _ _ => exists_diagram_sequence_iff, fun _ _ => exists_diagram_classes_iff,
    fun _ _ => exists_diagram_entityRelation_iff⟩

/-- Participants and classes without what the repair fills in, a step that means nobody, and
entities with all ways to write keys. -/
def sloppy : Json :=
  .object
    [("participants", .array
      [.object [("alias", .string "the user")], .object [("alias", .string "")]]),
      ("steps", .array
        [.object [("from", .string "theuser"), ("to", .string " "), ("label", .string "asks"),
            ("type", .string "Call")],
          .object [("from", .string "nobody"), ("to", .string "the user")]]),
      ("classes", .array [.object [("id", .string "note"), ("methods", .null)]]),
      ("entities", .array
        [.object [("name", .string "2nd row"), ("columns", .array
          [.object [("name", .string "id"), ("type", .string "int"),
              ("keys", .string "primary key, ,fk")],
            .object [("name", .string "at"), ("type", .string "date"),
              ("keys", .array [.string "Foreign"])],
            .object [("name", .string "x"), ("type", .string "")]])],
          .object [("name", .string "To")]]),
      ("relationships", .array
        [.object [("from", .string "To"), ("to", .string "2nd row"),
            ("cardinality", .string "1 : n"), ("label", .string "")],
          .object [("from", .string "To"), ("to", .string "3rd row")]])]

/-- `diagram_eq_ok_iff_mendable` at work: the sloppy plan passes as each kind, so its elements and
its surviving links can be mended. -/
theorem diagram_eq_ok_iff_mendable_sloppy :
    (survivingLinks .sequence sloppy).length = 1 ∧
      (∀ link ∈ survivingLinks .sequence sloppy, Mendable.Item Mendable.Step link) ∧
      (∀ item ∈ (sloppy.collection? "classes").getD [], Mendable.Item Mendable.ClassBox item) ∧
      (survivingLinks .entityRelation sloppy).length = 1 ∧
      (∀ item ∈ (sloppy.collection? "entities").getD [], Mendable.Item Mendable.Entity item) ∧
      ∀ link ∈ survivingLinks .entityRelation sloppy,
        Mendable.Item Mendable.EntityRelationship link := by
  obtain ⟨hsequence, hclasses, hentities⟩ := diagram_eq_ok_iff_mendable sloppy
  have hpasses : ∀ {kind : Kind}, (sloppy.diagram kind).toOption.isSome = true →
      ∃ text, sloppy.diagram kind = .ok text := by
    intro kind h
    cases hdiagram : sloppy.diagram kind with
    | ok text => exact ⟨text, rfl⟩
    | error d =>
        rw [hdiagram] at h
        cases h
  have hsteps := ((hsequence _ _ rfl rfl).1 (hpasses (by decide +kernel))).2
  have hboxes := ((hclasses _ _ rfl rfl).1 (hpasses (by decide +kernel))).1
  have htables := (hentities _ _ rfl rfl).1 (hpasses (by decide +kernel))
  exact ⟨by decide +kernel, hsteps, hboxes, by decide +kernel, htables.1, htables.2⟩

end Plans

end Schema
end CodeDiagram
