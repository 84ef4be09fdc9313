/-
# What a repair changes in a plan that passes

A plan that passes has names over `A–Z a–z 0–9 _`, but such a name can still be
a word of the grammar, or open with a digit where it must not, and a label can
be blank.  This is all that a repair finds to do:

| in the plan | in the repaired plan |
| --- | --- |
| a name, an end of a link | the safe name (`safeName`) |
| a blank label of a node, a blank description of a participant | the name |
| anything else | the same |

No element and no link is dropped, and each link still joins the elements that
it joined before, since every declared name means its safe name
(`Identifier.meaning?_of_forall`).  The repaired plan therefore passes as the
renamed plan (`ofJson_repair_of_ofJson`).
-/

import CodeDiagram.Proofs.Schema.SafeNames

namespace CodeDiagram

open Json (Fields)
open Identifier (Entry Table meaning?)
open Repair (recipe declarations rewired? repairedElements)

namespace Schema

variable {α β : Type} {kind : Kind} {table : Table} {plan : Json} {fields : Fields}

/-! ### Safe names -/

/-- The name that a repair makes of a name: in an entity relation `entity_` comes before a name that
does not open with a letter or `_`, and then `_` comes after a reserved word in any case. -/
def safeName (kind : Kind) (name : String) : String :=
  let opened :=
    if kind = .entityRelation ∧ name.toList.head?.any Identifier.isOpening = false then
      "entity_" ++ name
    else name
  if ∃ word ∈ kind.reserved, opened.toList.map Char.toLower = word.toList.map Char.toLower then
    opened ++ "_"
  else opened

/-- A safe name has in it what the naming demands. -/
theorem safeName_eq (kind : Kind) (name : String) :
    safeName kind name = kind.naming.withoutReserved (kind.naming.withOpening name) := by
  have hopening : (if kind = .entityRelation ∧ name.toList.head?.any Identifier.isOpening = false
      then "entity_" ++ name else name) = kind.naming.withOpening name := by
    cases kind <;> simp [Identifier.Naming.withOpening, Kind.naming]
  simp only [safeName, hopening, Identifier.Naming.withoutReserved, isReserved_iff]

/-- The safe name of a name is a name. -/
theorem isName_safeName (kind : Kind) {name : String} (h : IsName name) :
    IsName (safeName kind name) := by
  have hsound := kind.naming_sound
  have hopened := Identifier.Naming.isValid_withOpening hsound (isValid_iff_isName.2 h)
  have hadmits := Identifier.Naming.admits_withoutReserved hsound hopened
    (Identifier.Naming.withOpening_opens hsound)
  rw [safeName_eq]
  exact isValid_iff_isName.1 hadmits.valid

/-- **A good name is declared as its safe name.** -/
theorem declare_eq_safeName {name : String} (htable : table.naming = kind.naming)
    (h : IsName name) : (table.declare name).1 = safeName kind name := by
  rw [Table.declare_of_isValid (isValid_iff_isName.2 h), safeName_eq, htable]

/-! ### Renamed plans -/

/-- The label that a repair makes of a label of an element. -/
def shownLabel (label name : String) : String := if Text.isBlankText label then name else label

namespace Renamed

def node (n : Flowchart.Node) : Flowchart.Node :=
  { n with id := safeName .flowchart n.id, label := shownLabel n.label n.id }

def edge (e : Flowchart.Edge) : Flowchart.Edge :=
  { e with source := safeName .flowchart e.source, target := safeName .flowchart e.target }

def participant (p : Sequence.Participant) : Sequence.Participant :=
  { id := safeName .sequence p.id, description := shownLabel p.description p.id }

def step (s : Sequence.Step) : Sequence.Step :=
  { s with source := safeName .sequence s.source, target := safeName .sequence s.target }

def classBox (box : ClassDiagram.ClassBox) : ClassDiagram.ClassBox :=
  { box with id := safeName .classes box.id }

def classRelationship (r : ClassDiagram.Relationship) : ClassDiagram.Relationship :=
  { r with source := safeName .classes r.source, target := safeName .classes r.target }

def entity (e : EntityRelation.Entity) : EntityRelation.Entity :=
  { e with name := safeName .entityRelation e.name }

def entityRelationship (r : EntityRelation.Relationship) : EntityRelation.Relationship :=
  { r with
    source := safeName .entityRelation r.source, target := safeName .entityRelation r.target }

end Renamed

/-- The plan under safe names, with the name of the element in the place of a blank label. -/
def renamed : Plan → Plan
  | .flowchart p =>
    .flowchart { nodes := p.nodes.map Renamed.node, edges := p.edges.map Renamed.edge }
  | .sequence p =>
    .sequence
      { participants := p.participants.map Renamed.participant, steps := p.steps.map Renamed.step }
  | .classes p =>
    .classes
      { classes := p.classes.map Renamed.classBox
        relationships := p.relationships.map Renamed.classRelationship }
  | .entityRelation p =>
    .entityRelation
      { entities := p.entities.map Renamed.entity
        relationships := p.relationships.map Renamed.entityRelationship }

/-! ### Elements -/

section Elements

theorem describes_safeName {name : String} (htable : table.naming = kind.naming)
    (h : Describes.Name (recipe kind).nameField fields name) :
    Describes.Name (recipe kind).nameField
      ((recipe kind).tidyElement ((recipe kind).declare table fields).1) (safeName kind name) := by
  refine ⟨?_, isName_safeName kind h.isName⟩
  rw [← declare_eq_safeName htable h.isName]
  exact Repair.text?_nameField_declare kind table h.text

theorem text?_shownLabel (kind : Kind) {name field label : String}
    (h : Describes.Name (recipe kind).nameField fields name)
    (hfield : (recipe kind).labelField = some field) (hlabel : fields.text? field = some label)
    (table : Table) :
    ((recipe kind).tidyElement ((recipe kind).declare table fields).1).text? field =
      some (shownLabel label name) := by
  have htrim : Text.trim name = name :=
    Identifier.trim_of_isValid (isValid_iff_isName.2 h.isName)
  rw [Repair.text?_labelField_declare kind table h.text hfield, htrim,
    Repair.text?_fillLabel hlabel h.isName.1]
  rfl

/-- A node that passes is not dropped. -/
theorem isUsableNode_of_describes {n : Flowchart.Node} (h : Describes.Node fields n) :
    Repair.isUsableNode (.object fields) = true := by
  rw [Repair.isUsableNode_object, h.id.text, Vocabulary.bind_ofLoose?_of_spelling h.kind]
  rfl

theorem describes_node {n : Flowchart.Node} (htable : table.naming = Kind.flowchart.naming)
    (h : Describes.Node fields n) :
    Describes.Node ((recipe .flowchart).tidyElement ((recipe .flowchart).declare table fields).1)
      (Renamed.node n) := by
  have hkind := Vocabulary.bind_ofLoose?_of_spelling h.kind
  exact ⟨describes_safeName htable h.id, text?_shownLabel .flowchart h.id rfl h.label table,
    (Repair.text?_type_repaired_node_iff table fields).2 hkind⟩

theorem describes_participant {p : Sequence.Participant}
    (htable : table.naming = Kind.sequence.naming) (h : Describes.Participant fields p) :
    Describes.Participant
      ((recipe .sequence).tidyElement ((recipe .sequence).declare table fields).1)
      (Renamed.participant p) :=
  ⟨describes_safeName htable h.id, text?_shownLabel .sequence h.id rfl h.description table⟩

theorem describes_classBox {box : ClassDiagram.ClassBox}
    (htable : table.naming = Kind.classes.naming) (h : Describes.ClassBox fields box) :
    Describes.ClassBox ((recipe .classes).tidyElement ((recipe .classes).declare table fields).1)
      (Renamed.classBox box) := by
  have hproperties : "properties" ∈ Repair.tidiedOfElement .classes := by decide
  have hmethods : "methods" ∈ Repair.tidiedOfElement .classes := by decide
  refine ⟨describes_safeName htable h.id, ?_, ?_⟩
  · rw [Repair.items?_repaired_class hproperties, Repair.isUnset_of_items? h.properties,
      if_neg Bool.false_ne_true]
    exact h.properties
  · rw [Repair.items?_repaired_class hmethods, Repair.isUnset_of_items? h.methods,
      if_neg Bool.false_ne_true]
    exact h.methods

/-- A column that passes has nothing to mend. -/
theorem describes_column {c : EntityRelation.Column} (h : Describes.Column fields c) :
    Describes.Column (Repair.canonicalKeys fields) c := by
  have hlocal := Repair.canonicalKeys_local
  obtain ⟨entries, hentries, hfirst⟩ := h.keys
  have hkey : ∀ key : KeyKind, Repair.canonicalKey (.string (Vocabulary.spelling key)) =
      .string (Vocabulary.spelling key) := by
    intro key
    rw [Repair.canonicalKey_eq_spelling_iff]
    exact Vocabulary.bind_ofLoose?_of_spelling rfl
  have hmended : (entries.map fun key => Json.string (Vocabulary.spelling key)).map
      Repair.canonicalKey = entries.map fun key => .string (Vocabulary.spelling key) := by
    simp only [List.map_map, Function.comp_def, hkey]
  refine ⟨?_, ?_, entries, ?_, hfirst⟩
  · rw [hlocal.text? (by decide), h.name]
  · rw [hlocal.text? (by decide), h.dataType]
  · rw [Repair.items?_canonicalKeys, Fields.get?_of_items? hentries, Repair.keyEntries?,
      Option.map_some, hmended]

theorem describes_entity {entity : EntityRelation.Entity}
    (htable : table.naming = Kind.entityRelation.naming) (h : Describes.Entity fields entity) :
    Describes.Entity
      ((recipe .entityRelation).tidyElement ((recipe .entityRelation).declare table fields).1)
      (Renamed.entity entity) := by
  obtain ⟨items, hitems, hcolumns⟩ := h.columns
  refine ⟨describes_safeName htable h.name, items.map Repair.canonicalColumn, ?_, ?_⟩
  · rw [Repair.items?_repaired_entity, Repair.isUnset_of_items? hitems,
      if_neg Bool.false_ne_true, hitems, Option.map_some]
  · rw [List.forall₂_map_left_iff]
    refine hcolumns.imp fun item column hitem => ?_
    obtain ⟨fields, rfl, hfields⟩ := hitem
    exact ⟨_, rfl, describes_column hfields⟩

end Elements

/-! ### Links -/

section Links

variable {known : List String} {link : Fields}

/-- The link between the safe names of its ends. -/
abbrev relinked (kind : Kind) (source target : String) (link : Fields) : Fields :=
  (recipe kind).rewired (safeName kind source) (safeName kind target) link

/-- A rewired link joins the renamed elements. -/
theorem ends_relinked (kind : Kind) {source target : String}
    (h : Describes.Ends known link source target) :
    Describes.Ends (known.map (safeName kind)) (relinked kind source target link)
      (safeName kind source) (safeName kind target) where
  source_name :=
    ⟨Repair.text?_from_rewired kind _ _ link, isName_safeName kind h.source_name.isName⟩
  target_name :=
    ⟨Repair.text?_to_rewired kind _ _ link, isName_safeName kind h.target_name.isName⟩
  source_mem := List.mem_map_of_mem h.source_mem
  target_mem := List.mem_map_of_mem h.target_mem

/-- A rewired link has the text that it had in a field that is not mended. -/
theorem text?_relinked {source target field text : String}
    (hfield : field ∉ "from" :: "to" :: Repair.tidiedOfLink kind)
    (h : link.text? field = some text) :
    Fields.text? field (relinked kind source target link) = some text :=
  (Repair.text?_rewired _ _ hfield link).trans h

theorem optional_relinked {source target field : String} {text : Option String}
    (hfield : field ∉ "from" :: "to" :: Repair.tidiedOfLink kind)
    (h : Describes.Optional field link text) :
    Describes.Optional field (relinked kind source target link) text := by
  have hget := Repair.get?_rewired (safeName kind source) (safeName kind target) hfield link
  cases text with
  | some s => exact text?_relinked hfield h
  | none =>
      rw [Describes.Optional, relinked, hget]
      exact h

/-- A rewired link has the type that it had, if types are mended. -/
theorem type_relinked {w : Type} [Vocabulary w] [Vocabulary.Lawful w] {word : w}
    {source target : String} (htidy : (recipe kind).tidyLink = Repair.canonicalWord w "type")
    (h : link.text? "type" = some (Vocabulary.spelling word)) :
    Fields.text? "type" (relinked kind source target link) = some (Vocabulary.spelling word) := by
  rw [relinked, Repair.text?_type_rewired_iff htidy]
  exact Vocabulary.bind_ofLoose?_of_spelling h

theorem describes_edge {e : Flowchart.Edge} (h : Describes.Edge known link e) :
    Describes.Edge (known.map (safeName .flowchart)) (relinked .flowchart e.source e.target link)
      (Renamed.edge e) :=
  ⟨ends_relinked .flowchart h.ends, optional_relinked (by decide) h.label⟩

theorem describes_step {s : Sequence.Step} (h : Describes.Step known link s) :
    Describes.Step (known.map (safeName .sequence)) (relinked .sequence s.source s.target link)
      (Renamed.step s) :=
  ⟨ends_relinked .sequence h.ends, text?_relinked (by decide) h.label, type_relinked rfl h.kind⟩

theorem describes_classRelationship {r : ClassDiagram.Relationship}
    (h : Describes.ClassRelationship known link r) :
    Describes.ClassRelationship (known.map (safeName .classes))
      (relinked .classes r.source r.target link) (Renamed.classRelationship r) :=
  ⟨ends_relinked .classes h.ends, type_relinked rfl h.kind, optional_relinked (by decide) h.label⟩

theorem describes_entityRelationship {r : EntityRelation.Relationship}
    (h : Describes.EntityRelationship known link r) :
    Describes.EntityRelationship (known.map (safeName .entityRelation))
      (relinked .entityRelation r.source r.target link) (Renamed.entityRelationship r) := by
  refine ⟨ends_relinked .entityRelation h.ends, ?_, text?_relinked (by decide) h.label⟩
  -- a token is no phrase that the repair would read as another cardinality
  rw [relinked, Repair.text?_cardinality_rewired, h.cardinality, Option.map_some,
    Repair.canonicalCardinality_token]
  rfl

end Links

/-! ### Plans -/

section Plans

variable {describes : Fields → α → Prop} {describesLink : List String → Fields → β → Prop}
  {name : α → String} {source target : β → String} {rename : α → α} {renameLink : β → β}
  {items : List Json} {as : List α} {bs : List β}

/-- The elements of a repaired plan describe the renamed elements. -/
theorem forall₂_declareAll
    (helement : ∀ {table : Table} {fields a}, table.naming = kind.naming → describes fields a →
      describes ((recipe kind).tidyElement ((recipe kind).declare table fields).1) (rename a))
    (hitems : List.Forall₂ (Describes.Item describes) items as)
    (htable : table.naming = kind.naming) :
    List.Forall₂ (Describes.Item describes) ((recipe kind).declareAll table items).1
      (as.map rename) := by
  induction hitems generalizing table with
  | nil => exact .nil
  | cons hitem _ ih =>
      obtain ⟨fields, rfl, hfields⟩ := hitem
      rw [Repair.Recipe.declareAll_cons, List.map_cons]
      exact .cons ⟨_, rfl, helement htable hfields⟩
        (ih (((recipe kind).declareItem_naming _ _).trans htable))

/-- **A name of a good plan means its safe name**, in its repair. -/
theorem meaning?_eq_safeName {names : List String} {x : String}
    (hbefore : (Repair.keptElements kind plan).filterMap (recipe kind).nameOf? = names)
    (hafter : (repairedElements kind plan).filterMap (recipe kind).nameOf? =
      names.map (safeName kind)) (hvalid : ∀ x ∈ names, IsName x) (hx : x ∈ names) :
    meaning? kind.naming (declarations kind plan) x = some (safeName kind x) := by
  have htrim : ∀ x ∈ names, Text.trim x = x := fun x hx =>
    Identifier.trim_of_isValid (isValid_iff_isName.2 (hvalid x hx))
  have hnames : (declarations kind plan).map Entry.name = names := by
    rw [Repair.map_name_declarations_repair, hbefore, List.map_congr_left htrim, List.map_id']
  have hids : (declarations kind plan).map Entry.id =
      (declarations kind plan).map fun entry => safeName kind entry.name := by
    rw [Repair.map_id_declarations_repair, hafter, ← hnames, List.map_map]
    rfl
  refine Identifier.meaning?_of_forall (List.map_inj_left.1 hids) ?_ (htrim x hx)
  rw [hnames]
  exact hx

/-- **A plan that passes is repaired to one that passes**, as its elements and links under safe
names, if no element that passes is dropped and one element or link does so. -/
theorem collections_repair (kind : Kind)
    (hkeeps : ∀ {fields a}, describes fields a → (recipe kind).keeps (.object fields) = true)
    (hname : ∀ {fields a}, describes fields a →
      Describes.Name (recipe kind).nameField fields (name a))
    (hrename : ∀ a, name (rename a) = safeName kind (name a))
    (helement : ∀ {table : Table} {fields a}, table.naming = kind.naming → describes fields a →
      describes ((recipe kind).tidyElement ((recipe kind).declare table fields).1) (rename a))
    (hends : ∀ {known link b}, describesLink known link b →
      Describes.Ends known link (source b) (target b))
    (hlink : ∀ {known link b}, describesLink known link b →
      describesLink (known.map (safeName kind)) (relinked kind (source b) (target b) link)
        (renameLink b))
    (h : Describes.Collections (recipe kind).elements (recipe kind).links describes name
      describesLink plan as bs) :
    Describes.Collections (recipe kind).elements (recipe kind).links describes name describesLink
      (plan.repair kind) (as.map rename) (bs.map renameLink) := by
  obtain ⟨⟨items, hitems, has⟩, links, hlinks, hbs⟩ := h
  have hpass : ∀ item ∈ items, ∃ a, Describes.Item describes item a :=
    exists_forall₂_iff.1 ⟨as, has⟩
  have hkeepsAll : ∀ item ∈ items, (recipe kind).keeps item = true := by
    intro item hitem
    obtain ⟨a, fields, rfl, hfields⟩ := hpass item hitem
    exact hkeeps hfields
  obtain ⟨hkept, hrepaired⟩ := Repair.repairedElements_eq_declareAll hitems hkeepsAll
  have hafter : List.Forall₂ (Describes.Item describes) (repairedElements kind plan)
      (as.map rename) := by
    rw [hrepaired]
    exact forall₂_declareAll helement has (Repair.recipe_naming kind)
  -- the names of the elements, before and after
  have htext : ∀ fields a, describes fields a →
      Fields.text? (recipe kind).nameField fields = some (name a) := fun _ _ h => (hname h).text
  have hnames := names_of_describes htext has
  have hvalid : ∀ x ∈ items.filterMap (recipe kind).nameOf?, IsName x := by
    intro x hx
    obtain ⟨item, hitem, hx⟩ := List.mem_filterMap.1 hx
    obtain ⟨a, fields, rfl, hfields⟩ := hpass item hitem
    have ha := hname hfields
    rw [← Option.some.inj (ha.text.symm.trans hx)]
    exact ha.isName
  have hsafe : (as.map rename).map name = (as.map name).map (safeName kind) := by
    rw [List.map_map, List.map_map]
    exact List.map_congr_left fun a _ => hrename a
  have hmeans : ∀ x ∈ as.map name,
      meaning? kind.naming (declarations kind plan) x = some (safeName kind x) := by
    rw [hnames] at hvalid
    refine fun x hx => meaning?_eq_safeName ?_ ?_ hvalid hx
    · rw [hkept, hnames]
    · rw [← hsafe]
      exact names_of_describes htext hafter
  refine ⟨⟨_, Repair.collection?_elements_repair hitems, hafter⟩, _,
    Repair.collection?_links_repair_of_some hlinks, ?_⟩
  rw [Repair.repairedLinks_eq, hlinks, Option.getD_some, hsafe]
  refine forall₂_filterMap (fun item b hitem => ?_) hbs
  obtain ⟨link, rfl, hb⟩ := hitem
  have hjoins := hends hb
  refine ⟨_, ?_, _, rfl, hlink hb⟩
  rw [rewired?, hjoins.source_name.text, hjoins.target_name.text, Option.bind_some,
    Option.bind_some, hmeans _ hjoins.source_mem, hmeans _ hjoins.target_mem]
  rfl

theorem kind_renamed (typed : Plan) : (renamed typed).kind = typed.kind := by
  cases typed <;> rfl

/-- **The repair of a candidate describes the renamed plan.** -/
theorem describes_repair {typed : Plan} (h : Describes plan typed) :
    Describes (plan.repair typed.kind) (renamed typed) := by
  cases typed with
  | flowchart p =>
      exact collections_repair .flowchart isUsableNode_of_describes (fun h => h.id)
        (fun _ => rfl) describes_node (fun h => h.ends) describes_edge h
  | sequence p =>
      exact collections_repair .sequence (fun _ => rfl) (fun h => h.id)
        (fun _ => rfl) describes_participant (fun h => h.ends) describes_step h
  | classes p =>
      exact collections_repair .classes (fun _ => rfl) (fun h => h.id)
        (fun _ => rfl) describes_classBox (fun h => h.ends) describes_classRelationship h
  | entityRelation p =>
      exact collections_repair .entityRelation (fun _ => rfl) (fun h => h.name)
        (fun _ => rfl) describes_entity (fun h => h.ends) describes_entityRelationship h

/-- **A plan that passes is repaired to the same plan under safe names.**  No element and no link is
dropped, added or moved; beside the names and the ends, only blank labels of nodes and blank
descriptions of participants change. -/
theorem ofJson_repair_of_ofJson (kind : Kind) (plan : Json) (typed : Plan)
    (h : Plan.ofJson kind plan = .ok typed) :
    Plan.ofJson kind (plan.repair kind) = .ok (renamed typed) := by
  obtain rfl := kind_of_ofJson h
  have hrepaired := describes_repair (ofJson_kind_eq_ok_iff.1 h)
  rw [← kind_renamed typed] at hrepaired ⊢
  exact ofJson_kind_eq_ok_iff.2 hrepaired

/-- A flowchart and an entity relation that pass, with reserved names, a name that opens with a
digit, a blank label and a key that is repeated. -/
def plain : Json :=
  .object
    [("nodes", .array
      [.object [("id", .string "End"), ("label", .string " "), ("type", .string "startEnd")],
        .object [("id", .string "2"), ("label", .string "two"), ("type", .string "data")]]),
      ("edges", .array
        [.object [("from", .string "End"), ("to", .string "2"), ("label", .string "")]]),
      ("entities", .array
        [.object [("name", .string "To"), ("columns", .array
          [.object [("name", .string "at"), ("type", .string ""),
            ("keys", .array [.string "FK", .string "PK", .string "FK"])]])],
          .object [("name", .string "2nd"), ("columns", .array [])]]),
      ("relationships", .array
        [.object [("from", .string "2nd"), ("to", .string "To"), ("cardinality", .string "|o..||"),
          ("label", .string " ")]])]

/-- `ofJson_repair_of_ofJson` at work: `End` and `To` are reserved, and `2` may open the name of a
node but not that of an entity. -/
theorem ofJson_repair_of_ofJson_plain :
    Plan.ofJson .flowchart (plain.repair .flowchart) = .ok (.flowchart
        { nodes := [⟨"End_", "End", .startEnd⟩, ⟨"2", "two", .data⟩]
          edges := [⟨"End_", "2", some ""⟩] }) ∧
      Plan.ofJson .entityRelation (plain.repair .entityRelation) = .ok (.entityRelation
        { entities := [⟨"To_", [⟨"at", "", [.foreign, .primary]⟩]⟩, ⟨"entity_2nd", []⟩]
          relationships :=
            [⟨"entity_2nd", "To_", ⟨.zeroOrOne, false, .exactlyOne⟩, " "⟩] }) := by
  have hflowchart : Plan.ofJson .flowchart plain = .ok (.flowchart
      { nodes := [⟨"End", " ", .startEnd⟩, ⟨"2", "two", .data⟩]
        edges := [⟨"End", "2", some ""⟩] }) := by decide +kernel
  have hentities : Plan.ofJson .entityRelation plain = .ok (.entityRelation
      { entities := [⟨"To", [⟨"at", "", [.foreign, .primary]⟩]⟩, ⟨"2nd", []⟩]
        relationships :=
          [⟨"2nd", "To", ⟨.zeroOrOne, false, .exactlyOne⟩, " "⟩] }) := by decide +kernel
  have hnodes := ofJson_repair_of_ofJson .flowchart plain _ hflowchart
  have htables := ofJson_repair_of_ofJson .entityRelation plain _ hentities
  exact ⟨hnodes.trans (by decide +kernel), htables.trans (by decide +kernel)⟩

end Plans

end Schema
end CodeDiagram
