/-
# What a typed plan says about its candidate

A candidate describes a typed plan when it is an object with both collections
of the kind, and their items describe the elements and the links of the plan,
one by one and in order (`Describes`).

| in the plan | in the candidate |
| --- | --- |
| a text | the same string |
| an optional text | the same string; an absent or null field where there is none |
| a list of texts | the same strings in an array |
| a name | the same string, not empty and over `A–Z a–z 0–9 _` |
| an end of a link | the same string, which is the name of an element |
| a word | its canonical spelling |
| a cardinality | its token |
| a list of keys | their spellings in an array, where keys may be repeated |

The schema gives a typed plan exactly when the candidate describes it
(`ofJson_eq_ok_iff_describes`), so a typed plan holds nothing that is not in
its candidate, and a candidate that describes a plan is never turned down.
-/

import CodeDiagram.Proofs.Schema.Elements
import Mathlib.Data.List.Sort

namespace CodeDiagram

open Json (Fields)

namespace Schema

variable {α β γ : Type}

/-! ### Names -/

/-- A non-empty text over `A–Z a–z 0–9 _`. -/
def IsName (s : String) : Prop := s ≠ "" ∧ ∀ c ∈ s.toList, c.isAlphanum = true ∨ c = '_'

/-- The shape of an identifier, said by its characters. -/
theorem isValid_iff_isName {s : String} : Identifier.isValid s = true ↔ IsName s := by
  simp [Identifier.isValid, Identifier.isLetter, IsName]

/-! ### Lists without later repetitions -/

/-- `firsts` is `entries` with later repetitions left out: it has the same members, each once, in
the order of their first occurrences. -/
structure FirstOccurrences [DecidableEq α] (entries firsts : List α) : Prop where
  nodup : firsts.Nodup
  mem_iff : ∀ a, a ∈ firsts ↔ a ∈ entries
  order : firsts.Pairwise fun a b => entries.idxOf a < entries.idxOf b

section FirstOccurrences

variable [DecidableEq α] {entries firsts : List α}

/-- Leaving out other members does not change which of two members comes first. -/
theorem idxOf_lt_of_filter {p : α → Bool} {a b : α} (ha : p a = true) (hb : p b = true) :
    ∀ {xs : List α}, (xs.filter p).idxOf a < (xs.filter p).idxOf b → xs.idxOf a < xs.idxOf b
  | [], h => h
  | x :: xs, h => by
      have ih : (xs.filter p).idxOf a < (xs.filter p).idxOf b → xs.idxOf a < xs.idxOf b :=
        idxOf_lt_of_filter ha hb
      by_cases hx : p x = true
      · rw [List.filter_cons_of_pos hx] at h
        by_cases hxb : x = b
        · rw [hxb, List.idxOf_cons_self] at h
          exact absurd h (Nat.not_lt_zero _)
        · rw [List.idxOf_cons_ne _ hxb] at h ⊢
          by_cases hxa : x = a
          · rw [hxa, List.idxOf_cons_self]
            exact Nat.succ_pos _
          · rw [List.idxOf_cons_ne _ hxa] at h ⊢
            have := ih (Nat.lt_of_succ_lt_succ h)
            omega
      · have hxa : x ≠ a := fun h => hx (h ▸ ha)
        have hxb : x ≠ b := fun h => hx (h ▸ hb)
        rw [List.filter_cons_of_neg hx] at h
        rw [List.idxOf_cons_ne xs hxa, List.idxOf_cons_ne xs hxb]
        have := ih h
        omega

/-- What is left without repetitions is the first of each, in order. -/
theorem firstOccurrences_eraseDups : ∀ entries : List α,
    FirstOccurrences entries entries.eraseDups
  | [] => ⟨List.nodup_nil, fun _ => Iff.rfl, List.Pairwise.nil⟩
  | x :: xs => by
      have ih := firstOccurrences_eraseDups (xs.filter fun y => !y == x)
      have hrest : ∀ y ∈ (xs.filter fun y => !y == x).eraseDups, y ≠ x := by
        intro y hy
        rw [ih.mem_iff, List.mem_filter] at hy
        simpa using hy.2
      refine ⟨?_, fun _ => List.mem_eraseDups, ?_⟩
      · rw [List.eraseDups_cons, List.nodup_cons]
        exact ⟨fun hx => hrest x hx rfl, ih.nodup⟩
      · rw [List.eraseDups_cons, List.pairwise_cons]
        refine ⟨fun y hy => ?_, ih.order.imp_of_mem fun {a b} ha hb hab => ?_⟩
        · rw [List.idxOf_cons_self, List.idxOf_cons_ne xs (Ne.symm (hrest y hy))]
          exact Nat.succ_pos _
        · rw [List.idxOf_cons_ne xs (Ne.symm (hrest a ha)),
            List.idxOf_cons_ne xs (Ne.symm (hrest b hb))]
          refine Nat.succ_lt_succ (idxOf_lt_of_filter ?_ ?_ hab)
          · simpa using hrest a ha
          · simpa using hrest b hb
  termination_by entries => entries.length
  decreasing_by exact Nat.lt_succ_of_le (List.length_filter_le _ _)

/-- **A list has one list of first occurrences.** -/
theorem firstOccurrences_iff : FirstOccurrences entries firsts ↔ entries.eraseDups = firsts := by
  constructor
  · intro h
    have herase := firstOccurrences_eraseDups entries
    have hperm : entries.eraseDups.Perm firsts := by
      rw [List.perm_ext_iff_of_nodup herase.nodup h.nodup]
      intro a
      rw [herase.mem_iff, h.mem_iff]
    refine List.Perm.eq_of_pairwise (fun a b _ _ hab hba => ?_) herase.order h.order hperm
    exact absurd hab (Nat.lt_asymm hba)
  · rintro rfl
    exact firstOccurrences_eraseDups entries

end FirstOccurrences

/-! ### Descriptions -/

namespace Describes

/-- The field holds the text; where there is none, it is absent or null. -/
def Optional (field : String) (fields : Fields) : Option String → Prop
  | some s => fields.text? field = some s
  | none => fields.get? field = none ∨ fields.get? field = some .null

/-- The fields describe a name. -/
structure Name (field : String) (fields : Fields) (name : String) : Prop where
  text : fields.text? field = some name
  isName : IsName name

/-- The fields describe the two ends of a link, which are known names. -/
structure Ends (known : List String) (fields : Fields) (source target : String) : Prop where
  source_name : Name "from" fields source
  target_name : Name "to" fields target
  source_mem : source ∈ known
  target_mem : target ∈ known

/-- The item is an object whose fields describe `a`. -/
def Item (describes : Fields → α → Prop) (item : Json) (a : α) : Prop :=
  ∃ fields, item = .object fields ∧ describes fields a

structure Node (fields : Fields) (node : Flowchart.Node) : Prop where
  id : Name "id" fields node.id
  label : fields.text? "label" = some node.label
  kind : fields.text? "type" = some (Vocabulary.spelling node.kind)

structure Edge (known : List String) (fields : Fields) (edge : Flowchart.Edge) : Prop where
  ends : Ends known fields edge.source edge.target
  label : Optional "label" fields edge.label

structure Participant (fields : Fields) (participant : Sequence.Participant) : Prop where
  id : Name "alias" fields participant.id
  description : fields.text? "description" = some participant.description

structure Step (known : List String) (fields : Fields) (step : Sequence.Step) : Prop where
  ends : Ends known fields step.source step.target
  label : fields.text? "label" = some step.label
  kind : fields.text? "type" = some (Vocabulary.spelling step.kind)

structure ClassBox (fields : Fields) (box : ClassDiagram.ClassBox) : Prop where
  id : Name "id" fields box.id
  properties : fields.items? "properties" = some (box.properties.map .string)
  methods : fields.items? "methods" = some (box.methods.map .string)

structure ClassRelationship (known : List String) (fields : Fields)
    (relationship : ClassDiagram.Relationship) : Prop where
  ends : Ends known fields relationship.source relationship.target
  kind : fields.text? "type" = some (Vocabulary.spelling relationship.kind)
  label : Optional "label" fields relationship.label

structure Column (fields : Fields) (column : EntityRelation.Column) : Prop where
  name : fields.text? "name" = some column.name
  dataType : fields.text? "type" = some column.dataType
  keys : ∃ entries : List KeyKind,
    fields.items? "keys" = some (entries.map fun key => .string (Vocabulary.spelling key)) ∧
      FirstOccurrences entries column.keys

structure Entity (fields : Fields) (entity : EntityRelation.Entity) : Prop where
  name : Name "name" fields entity.name
  columns : ∃ items, fields.items? "columns" = some items ∧
    List.Forall₂ (Item Column) items entity.columns

structure EntityRelationship (known : List String) (fields : Fields)
    (relationship : EntityRelation.Relationship) : Prop where
  ends : Ends known fields relationship.source relationship.target
  cardinality : fields.text? "cardinality" = some relationship.cardinality.token
  label : fields.text? "label" = some relationship.label

/-- The candidate is an object with both collections.  The items of the first describe the elements
`as`, and those of the second the links `bs` between them. -/
structure Collections (elements links : String) (element : Fields → α → Prop) (name : α → String)
    (link : List String → Fields → β → Prop) (plan : Json) (as : List α) (bs : List β) : Prop where
  elements : ∃ items, plan.collection? elements = some items ∧ List.Forall₂ (Item element) items as
  links : ∃ items, plan.collection? links = some items ∧
    List.Forall₂ (Item (link (as.map name))) items bs

end Describes

/-- The candidate describes the typed plan. -/
def Describes (plan : Json) : Plan → Prop
  | .flowchart p =>
    Describes.Collections "nodes" "edges" Describes.Node Flowchart.Node.id Describes.Edge
      plan p.nodes p.edges
  | .sequence p =>
    Describes.Collections "participants" "steps" Describes.Participant Sequence.Participant.id
      Describes.Step plan p.participants p.steps
  | .classes p =>
    Describes.Collections "classes" "relationships" Describes.ClassBox ClassDiagram.ClassBox.id
      Describes.ClassRelationship plan p.classes p.relationships
  | .entityRelation p =>
    Describes.Collections "entities" "relationships" Describes.Entity EntityRelation.Entity.name
      Describes.EntityRelationship plan p.entities p.relationships

/-! ### Fields that pass -/

namespace Element

variable {e : Element} {field s : String}

/-- An identifier is checked as a name is described. -/
theorem identifier_eq_ok_iff_name :
    e.identifier field = .ok s ↔ Describes.Name field e.fields s := by
  rw [identifier_eq_ok_iff, isValid_iff_isName]
  exact ⟨fun h => ⟨h.1, h.2⟩, fun h => ⟨h.text, h.isName⟩⟩

theorem reference_eq_ok_iff_name {known : List String} {target : String} :
    e.reference field known target = .ok s ↔ Describes.Name field e.fields s ∧ s ∈ known := by
  rw [reference_eq_ok_iff, isValid_iff_isName, ← and_assoc]
  exact and_congr_left fun _ => ⟨fun h => ⟨h.1, h.2⟩, fun h => ⟨h.text, h.isName⟩⟩

/-- An optional text is checked as it is described. -/
theorem optionalString_eq_ok_iff {text : Option String} :
    e.optionalString field = .ok text ↔ Describes.Optional field e.fields text := by
  unfold optionalString
  cases hget : e.fields.get? field with
  | none => cases text <;> simp [Describes.Optional, Fields.text?, hget]
  | some json =>
      cases json <;> cases text <;> simp [Describes.Optional, Fields.text?, Json.text?, hget]

end Element

/-! ### Collections that pass -/

section Passing

variable {element : Element → Checked α} {link : List String → Element → Checked β}
  {describes : Fields → α → Prop} {describesLink : List String → Fields → β → Prop}

/-- An item is checked as it is described if an element is. -/
theorem checkItem_eq_ok_iff_describes {outer : Path} {collection : String} {item : Json × Nat}
    {a : α} (h : ∀ path fields a, element ⟨path, fields⟩ = .ok a ↔ describes fields a) :
    checkItem outer collection element item = .ok a ↔ Describes.Item describes item.1 a := by
  rw [checkItem_eq_ok_iff]
  exact exists_congr fun fields => and_congr_right fun _ => h _ fields a

/-- **A collection passes as the values that its items describe.** -/
theorem checkAll_eq_ok_iff {outer : Path} {collection : String} {items : List Json} {as : List α}
    (h : ∀ path fields a, element ⟨path, fields⟩ = .ok a ↔ describes fields a) :
    checkAll outer collection element items = .ok as ↔
      List.Forall₂ (Describes.Item describes) items as := by
  rw [checkAll_eq_mapM, mapM_eq_ok_iff]
  simp only [checkItem_eq_ok_iff_describes h]
  rw [← List.forall₂_map_left_iff (f := Prod.fst), List.zipIdx_map_fst]

/-- **A plan passes as what its two collections describe.** -/
theorem checkPlan_eq_ok_iff {elements links : String} {name : α → String}
    {make : List α → List β → γ} {plan : Json} {c : γ}
    (helement : ∀ path fields a, element ⟨path, fields⟩ = .ok a ↔ describes fields a)
    (hlink : ∀ known path fields b,
      link known ⟨path, fields⟩ = .ok b ↔ describesLink known fields b) :
    checkPlan elements links element name link make plan = .ok c ↔
      ∃ as bs, Describes.Collections elements links describes name describesLink plan as bs ∧
        make as bs = c := by
  simp only [checkPlan, bind_eq_ok_iff]
  constructor
  · rintro ⟨⟨items, items'⟩, hcollections, as, has, bs, hbs, h⟩
    obtain ⟨hitems, hitems'⟩ := collections_eq_ok_iff.1 hcollections
    refine ⟨as, bs, ⟨⟨items, hitems, ?_⟩, items', hitems', ?_⟩, Except.ok.inj h⟩
    · exact (checkAll_eq_ok_iff helement).1 has
    · exact (checkAll_eq_ok_iff (hlink _)).1 hbs
  · rintro ⟨as, bs, ⟨⟨items, hitems, has⟩, items', hitems', hbs⟩, rfl⟩
    refine ⟨(items, items'), collections_eq_ok_iff.2 ⟨hitems, hitems'⟩, as, ?_, bs, ?_, rfl⟩
    · exact (checkAll_eq_ok_iff helement).2 has
    · exact (checkAll_eq_ok_iff (hlink _)).2 hbs

end Passing

/-! ### The four kinds -/

section Kinds

variable {path : Path} {fields : Fields} {known : List String} {plan : Json}

/-- A node passes its check as just the node that is described. -/
theorem node_eq_ok_iff {n : Flowchart.Node} :
    node ⟨path, fields⟩ = .ok n ↔ Describes.Node fields n := by
  simp only [node, bind_eq_ok_iff]
  constructor
  · rintro ⟨id, hid, label, hlabel, kind, hkind, h⟩
    cases h
    exact ⟨Element.identifier_eq_ok_iff_name.1 hid, Element.string_eq_ok_iff.1 hlabel,
      Element.word_eq_ok_iff_spelling.1 hkind⟩
  · intro h
    exact ⟨_, Element.identifier_eq_ok_iff_name.2 h.id, _, Element.string_eq_ok_iff.2 h.label, _,
      Element.word_eq_ok_iff_spelling.2 h.kind, rfl⟩

/-- A participant passes its check as just the one that is described. -/
theorem participant_eq_ok_iff {p : Sequence.Participant} :
    participant ⟨path, fields⟩ = .ok p ↔ Describes.Participant fields p := by
  simp only [participant, bind_eq_ok_iff]
  constructor
  · rintro ⟨id, hid, description, hdescription, h⟩
    cases h
    exact ⟨Element.identifier_eq_ok_iff_name.1 hid, Element.string_eq_ok_iff.1 hdescription⟩
  · intro h
    exact ⟨_, Element.identifier_eq_ok_iff_name.2 h.id, _,
      Element.string_eq_ok_iff.2 h.description, rfl⟩

/-- A class passes its check as just the class that is described. -/
theorem classBox_eq_ok_iff {box : ClassDiagram.ClassBox} :
    classBox ⟨path, fields⟩ = .ok box ↔ Describes.ClassBox fields box := by
  simp only [classBox, bind_eq_ok_iff]
  constructor
  · rintro ⟨id, hid, properties, hproperties, methods, hmethods, h⟩
    cases h
    exact ⟨Element.identifier_eq_ok_iff_name.1 hid, Element.stringArray_eq_ok_iff.1 hproperties,
      Element.stringArray_eq_ok_iff.1 hmethods⟩
  · intro h
    exact ⟨_, Element.identifier_eq_ok_iff_name.2 h.id, _,
      Element.stringArray_eq_ok_iff.2 h.properties, _, Element.stringArray_eq_ok_iff.2 h.methods,
      rfl⟩

/-- A column passes its check as just the column that is described. -/
theorem column_eq_ok_iff {c : EntityRelation.Column} :
    column ⟨path, fields⟩ = .ok c ↔ Describes.Column fields c := by
  simp only [column, bind_eq_ok_iff]
  constructor
  · rintro ⟨name, hname, dataType, htype, keys, hkeys, h⟩
    cases h
    obtain ⟨entries, hentries, hfirst⟩ := Element.keys_eq_ok_iff.1 hkeys
    exact ⟨Element.string_eq_ok_iff.1 hname, Element.string_eq_ok_iff.1 htype, entries, hentries,
      firstOccurrences_iff.2 hfirst⟩
  · intro h
    obtain ⟨entries, hentries, hfirst⟩ := h.keys
    exact ⟨_, Element.string_eq_ok_iff.2 h.name, _, Element.string_eq_ok_iff.2 h.dataType, _,
      Element.keys_eq_ok_iff.2 ⟨entries, hentries, firstOccurrences_iff.1 hfirst⟩, rfl⟩

/-- An entity passes its check as just the entity that is described. -/
theorem entity_eq_ok_iff {entity : EntityRelation.Entity} :
    Schema.entity ⟨path, fields⟩ = .ok entity ↔ Describes.Entity fields entity := by
  simp only [Schema.entity, bind_eq_ok_iff]
  constructor
  · rintro ⟨name, hname, items, hitems, columns, hcolumns, h⟩
    cases h
    exact ⟨Element.identifier_eq_ok_iff_name.1 hname, items, Element.array_eq_ok_iff.1 hitems,
      (checkAll_eq_ok_iff fun _ _ _ => column_eq_ok_iff).1 hcolumns⟩
  · intro h
    obtain ⟨items, hitems, hcolumns⟩ := h.columns
    exact ⟨_, Element.identifier_eq_ok_iff_name.2 h.name, items, Element.array_eq_ok_iff.2 hitems,
      _, (checkAll_eq_ok_iff fun _ _ _ => column_eq_ok_iff).2 hcolumns, rfl⟩

/-- Both ends of a link pass when they are described. -/
theorem ends_of_references {source target stem : String}
    (hsource : (Element.mk path fields).reference "from" known stem = .ok source)
    (htarget : (Element.mk path fields).reference "to" known stem = .ok target) :
    Describes.Ends known fields source target := by
  obtain ⟨hsource, hsourceMem⟩ := Element.reference_eq_ok_iff_name.1 hsource
  obtain ⟨htarget, htargetMem⟩ := Element.reference_eq_ok_iff_name.1 htarget
  exact ⟨hsource, htarget, hsourceMem, htargetMem⟩

/-- The end that a described link starts from passes its check. -/
theorem Describes.Ends.source_passes {source target : String}
    (h : Describes.Ends known fields source target) (stem : String) :
    (Element.mk path fields).reference "from" known stem = .ok source :=
  Element.reference_eq_ok_iff_name.2 ⟨h.source_name, h.source_mem⟩

theorem Describes.Ends.target_passes {source target : String}
    (h : Describes.Ends known fields source target) (stem : String) :
    (Element.mk path fields).reference "to" known stem = .ok target :=
  Element.reference_eq_ok_iff_name.2 ⟨h.target_name, h.target_mem⟩

/-- An edge passes its check as just the edge that is described, between known nodes. -/
theorem edge_eq_ok_iff {e : Flowchart.Edge} :
    edge known ⟨path, fields⟩ = .ok e ↔ Describes.Edge known fields e := by
  simp only [edge, bind_eq_ok_iff]
  constructor
  · rintro ⟨source, hsource, target, htarget, label, hlabel, h⟩
    cases h
    exact ⟨ends_of_references hsource htarget, Element.optionalString_eq_ok_iff.1 hlabel⟩
  · intro h
    exact ⟨_, h.ends.source_passes _, _, h.ends.target_passes _, _,
      Element.optionalString_eq_ok_iff.2 h.label, rfl⟩

/-- A step passes its check as just the step that is described, between known participants. -/
theorem step_eq_ok_iff {s : Sequence.Step} :
    step known ⟨path, fields⟩ = .ok s ↔ Describes.Step known fields s := by
  simp only [step, bind_eq_ok_iff]
  constructor
  · rintro ⟨source, hsource, target, htarget, label, hlabel, kind, hkind, h⟩
    cases h
    exact ⟨ends_of_references hsource htarget, Element.string_eq_ok_iff.1 hlabel,
      Element.word_eq_ok_iff_spelling.1 hkind⟩
  · intro h
    exact ⟨_, h.ends.source_passes _, _, h.ends.target_passes _, _,
      Element.string_eq_ok_iff.2 h.label, _, Element.word_eq_ok_iff_spelling.2 h.kind, rfl⟩

theorem classRelationship_eq_ok_iff {r : ClassDiagram.Relationship} :
    classRelationship known ⟨path, fields⟩ = .ok r ↔
      Describes.ClassRelationship known fields r := by
  simp only [classRelationship, bind_eq_ok_iff]
  constructor
  · rintro ⟨source, hsource, target, htarget, kind, hkind, label, hlabel, h⟩
    cases h
    exact ⟨ends_of_references hsource htarget, Element.word_eq_ok_iff_spelling.1 hkind,
      Element.optionalString_eq_ok_iff.1 hlabel⟩
  · intro h
    exact ⟨_, h.ends.source_passes _, _, h.ends.target_passes _, _,
      Element.word_eq_ok_iff_spelling.2 h.kind, _, Element.optionalString_eq_ok_iff.2 h.label, rfl⟩

theorem entityRelationship_eq_ok_iff {r : EntityRelation.Relationship} :
    entityRelationship known ⟨path, fields⟩ = .ok r ↔
      Describes.EntityRelationship known fields r := by
  simp only [entityRelationship, bind_eq_ok_iff]
  constructor
  · rintro ⟨source, hsource, target, htarget, cardinality, hcardinality, label, hlabel, h⟩
    cases h
    exact ⟨ends_of_references hsource htarget, Element.cardinality_eq_ok_iff.1 hcardinality,
      Element.string_eq_ok_iff.1 hlabel⟩
  · intro h
    exact ⟨_, h.ends.source_passes _, _, h.ends.target_passes _, _,
      Element.cardinality_eq_ok_iff.2 h.cardinality, _, Element.string_eq_ok_iff.2 h.label, rfl⟩

theorem flowchart_eq_ok_iff {p : Flowchart} :
    flowchart plan = .ok p ↔ Describes plan (.flowchart p) := by
  rw [flowchart_eq_checkPlan,
    checkPlan_eq_ok_iff (fun _ _ _ => node_eq_ok_iff) fun _ _ _ _ => edge_eq_ok_iff]
  exact ⟨fun ⟨_, _, h, hp⟩ => hp ▸ h, fun h => ⟨_, _, h, rfl⟩⟩

theorem sequence_eq_ok_iff {p : Sequence} :
    sequence plan = .ok p ↔ Describes plan (.sequence p) := by
  rw [sequence_eq_checkPlan,
    checkPlan_eq_ok_iff (fun _ _ _ => participant_eq_ok_iff) fun _ _ _ _ => step_eq_ok_iff]
  exact ⟨fun ⟨_, _, h, hp⟩ => hp ▸ h, fun h => ⟨_, _, h, rfl⟩⟩

theorem classDiagram_eq_ok_iff {p : ClassDiagram} :
    classDiagram plan = .ok p ↔ Describes plan (.classes p) := by
  rw [classDiagram_eq_checkPlan, checkPlan_eq_ok_iff (fun _ _ _ => classBox_eq_ok_iff)
    fun _ _ _ _ => classRelationship_eq_ok_iff]
  exact ⟨fun ⟨_, _, h, hp⟩ => hp ▸ h, fun h => ⟨_, _, h, rfl⟩⟩

theorem entityRelation_eq_ok_iff {p : EntityRelation} :
    entityRelation plan = .ok p ↔ Describes plan (.entityRelation p) := by
  rw [entityRelation_eq_checkPlan, checkPlan_eq_ok_iff (fun _ _ _ => entity_eq_ok_iff)
    fun _ _ _ _ => entityRelationship_eq_ok_iff]
  exact ⟨fun ⟨_, _, h, hp⟩ => hp ▸ h, fun h => ⟨_, _, h, rfl⟩⟩

end Kinds

/-! ### Plans -/

/-- A typed plan is of the kind that was asked for. -/
theorem kind_of_ofJson {kind : Kind} {plan : Json} {typed : Plan}
    (h : Plan.ofJson kind plan = .ok typed) : typed.kind = kind := by
  cases kind <;>
  · obtain ⟨p, -, rfl⟩ := map_eq_ok_iff.1 h
    rfl

/-- A plan passes the check of its kind as just the plan that is described. -/
theorem ofJson_kind_eq_ok_iff {plan : Json} {typed : Plan} :
    Plan.ofJson typed.kind plan = .ok typed ↔ Describes plan typed := by
  cases typed with
  | flowchart p => simp [Plan.kind, Plan.ofJson, map_eq_ok_iff, flowchart_eq_ok_iff]
  | sequence p => simp [Plan.kind, Plan.ofJson, map_eq_ok_iff, sequence_eq_ok_iff]
  | classes p => simp [Plan.kind, Plan.ofJson, map_eq_ok_iff, classDiagram_eq_ok_iff]
  | entityRelation p => simp [Plan.kind, Plan.ofJson, map_eq_ok_iff, entityRelation_eq_ok_iff]

/-- **A candidate is read as the plan that it describes**, and as no other: the schema gives a typed
plan exactly when it is of the kind that was asked for and the candidate describes it. -/
theorem ofJson_eq_ok_iff_describes (kind : Kind) (plan : Json) (typed : Plan) :
    Plan.ofJson kind plan = .ok typed ↔ typed.kind = kind ∧ Describes plan typed := by
  constructor
  · intro h
    obtain rfl := kind_of_ofJson h
    exact ⟨rfl, ofJson_kind_eq_ok_iff.1 h⟩
  · rintro ⟨rfl, h⟩
    exact ofJson_kind_eq_ok_iff.2 h

end Schema
end CodeDiagram
