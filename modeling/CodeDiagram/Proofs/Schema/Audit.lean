/-
# All defects of a candidate plan

Section 4.2 of `SPEC_FULL.md`: "Checks run in a fixed order and stop at the
first failure".

An audit goes on after a defect.  It lists every defect of a candidate in the
order in which a reader meets them (`Audit.defects`): the missing arrays, then
the elements in order, then the links in order, and within each of them the
fields in the order of the schema.  A field can have several defects: an end of
a link can be no identifier and unknown as well, and a list of keys has one
defect for each bad entry.  The known names are those that the elements give
themselves, good or bad.

The schema stops at its first defect, and that is the first one of the audit
(`ofJson_eq_error_iff_first`).  A check *reports* a list when it fails with the
head of the list and passes if there is none (`Reports`); a chain of checks
reports the lists of its links one after the other (`Reports.bind`), and the
check of a collection those of its items (`Reports.checkAll`).
-/

import CodeDiagram.Proofs.Schema.Reading

namespace CodeDiagram

open Json (Fields)

namespace Schema

variable {α β γ : Type}

namespace Audit

/-! ### Fields -/

/-- The defects of a field that should hold a string: those of the string, if it is one. -/
def ofString (e : Element) (field : String) (further : String → List Defect) : List Defect :=
  match e.fields.get? field with
  | some (.string s) => further s
  | _ => [.notAString e.path field]

/-- The defects of a field that should hold an array: those of the items, if it is one. -/
def ofArray (e : Element) (field : String) (further : List Json → List Defect) : List Defect :=
  match e.fields.get? field with
  | some (.array items) => further items
  | _ => [.notAnArray e.path field]

def text (e : Element) (field : String) : List Defect := ofString e field fun _ => []

def optionalText (e : Element) (field : String) : List Defect :=
  match e.fields.get? field with
  | none | some .null | some (.string _) => []
  | some _ => [.invalidOptional e.path field]

def name (e : Element) (field : String) : List Defect :=
  ofString e field fun s => if Identifier.isValid s then [] else [.invalidIdentifier e.path s]

def reference (known : List String) (target : String) (e : Element) (field : String) :
    List Defect :=
  ofString e field fun s =>
    (if Identifier.isValid s then [] else [.invalidIdentifier e.path s]) ++
      if s ∈ known then [] else [.unknownReference e.path field target s]

/-- The defects of a text that should be a canonical spelling. -/
def spelling (α : Type) [Vocabulary α] (e : Element) (field s : String) : List Defect :=
  if s ∈ (Vocabulary.members : List α).map Vocabulary.spelling then []
  else [.unknownWord e.path field s (Vocabulary.expected α)]

def word (α : Type) [Vocabulary α] (e : Element) (field : String) : List Defect :=
  ofString e field (spelling α e field)

def cardinality (e : Element) (field : String) : List Defect :=
  ofString e field fun s =>
    if (Cardinality.ofToken? s).isSome then [] else [.invalidCardinality e.path s]

/-- The defects of an item of an array of strings: those of the string, if it is one. -/
def entry (e : Element) (field : String) (further : String → List Defect) : Json → List Defect
  | .string s => further s
  | _ => [.notAStringArray e.path field]

def texts (e : Element) (field : String) : List Defect :=
  ofArray e field fun items => items.flatMap (entry e field fun _ => [])

def keys (e : Element) (field : String) : List Defect :=
  ofArray e field fun items => items.flatMap (entry e field (spelling KeyKind e field))

/-! ### Collections -/

/-- The defects of the items of a collection, each of which should be an object. -/
def items (outer : Path) (collection : String) (element : Element → List Defect)
    (items : List Json) : List Defect :=
  items.zipIdx.flatMap fun item =>
    let path := outer ++ [⟨collection, item.2⟩]
    match item.1 with
    | .object fields => element ⟨path, fields⟩
    | _ => [.elementNotObject path]

/-- The names that the elements of a collection give themselves. -/
def names (field : String) (items : List Json) : List String :=
  items.filterMap fun item => (item.fields?.bind fun fields => fields.text? field)

def missing (collection : String) (fields : Fields) : List Defect :=
  if (fields.items? collection).isSome then [] else [.missingArray collection]

/-- The defects of a plan of two collections: the missing ones, then those of the elements, then
those of the links. -/
def collections (elements nameField links : String) (element : Element → List Defect)
    (link : List String → Element → List Defect) : Json → List Defect
  | .object fields =>
    let first := (Fields.items? elements fields).getD []
    let second := (Fields.items? links fields).getD []
    (missing elements fields ++ missing links fields) ++
      (items [] elements element first ++
        items [] links (link (names nameField first)) second)
  | _ => [.notAnObject]

/-! ### The four kinds -/

def node (e : Element) : List Defect := name e "id" ++ (text e "label" ++ word NodeKind e "type")

def edge (known : List String) (e : Element) : List Defect :=
  reference known "node" e "from" ++ (reference known "node" e "to" ++ optionalText e "label")

def participant (e : Element) : List Defect := name e "alias" ++ text e "description"

def step (known : List String) (e : Element) : List Defect :=
  reference known "participant" e "from" ++ (reference known "participant" e "to" ++
    (text e "label" ++ word StepKind e "type"))

def classBox (e : Element) : List Defect :=
  name e "id" ++ (texts e "properties" ++ texts e "methods")

def classRelationship (known : List String) (e : Element) : List Defect :=
  reference known "class" e "from" ++ (reference known "class" e "to" ++
    (word RelationKind e "type" ++ optionalText e "label"))

def column (e : Element) : List Defect := text e "name" ++ (text e "type" ++ keys e "keys")

def entity (e : Element) : List Defect :=
  name e "name" ++ ofArray e "columns" (items e.path "columns" column)

def entityRelationship (known : List String) (e : Element) : List Defect :=
  reference known "entity" e "from" ++ (reference known "entity" e "to" ++
    (cardinality e "cardinality" ++ text e "label"))

/-- All defects of a candidate plan, in the order in which they are met. -/
def defects : Kind → Json → List Defect
  | .flowchart => collections "nodes" "id" "edges" node edge
  | .sequence => collections "participants" "alias" "steps" participant step
  | .classes => collections "classes" "id" "relationships" classBox classRelationship
  | .entityRelation => collections "entities" "name" "relationships" entity entityRelationship

end Audit

/-! ### Reporting the first of several defects -/

/-- The check fails with the first of the defects, and passes if there is none. -/
def Reports (check : Checked α) (defects : List Defect) : Prop :=
  ∀ defect, check = .error defect ↔ defects.head? = some defect

namespace Reports

variable {check : Checked α} {next : α → Checked β} {defects defects' : List Defect}

/-- A check that passes reports nothing. -/
theorem passes (a : α) : Reports (.ok a) [] := fun _ => ⟨fun h => (nomatch h), fun h => (nomatch h)⟩

/-- A check that fails reports the first of the defects. -/
theorem fails (defect : Defect) (rest : List Defect) :
    Reports (.error defect : Checked α) (defect :: rest) := by
  intro d
  rw [List.head?_cons, Option.some.injEq, Except.error.injEq]

/-- **A chain reports the defects of its links in order**, those of a later link being looked for in
what the earlier ones let through. -/
theorem bind (h : Reports check defects)
    (hnext : ∀ a, check = .ok a → Reports (next a) defects') :
    Reports (check >>= next) (defects ++ defects') := by
  cases hcheck : check with
  | ok a =>
      cases defects with
      | nil => exact hnext a hcheck
      | cons d rest => cases hcheck.symm.trans ((h d).2 rfl)
  | error d =>
      rw [hcheck] at h
      cases defects with
      | nil => cases (h d).1 rfl
      | cons d' rest =>
          cases Option.some.inj ((h d).1 rfl)
          exact fails d (rest ++ defects')

/-- What is made of the result does not show in the report. -/
theorem map (f : α → β) (h : Reports check defects) : Reports (check.map f) defects := by
  intro defect
  rw [map_eq_error_iff, h defect]

/-- Checks in a row report the defects of all of them in a row. -/
theorem mapM {check : α → Checked β} {audit : α → List Defect} : ∀ {xs : List α},
    (∀ x ∈ xs, Reports (check x) (audit x)) → Reports (xs.mapM check) (xs.flatMap audit)
  | [], _ => passes []
  | x :: xs, h => by
      have hrest : Reports (xs.mapM check) (xs.flatMap audit) :=
        mapM fun y hy => h y (List.mem_cons_of_mem _ hy)
      rw [List.mapM_cons, List.flatMap_cons]
      refine (h x (List.mem_cons_self ..)).bind fun y _ => ?_
      exact hrest.map fun ys => y :: ys

/-- A check passes exactly when it has nothing to report. -/
theorem exists_eq_ok_iff (h : Reports check defects) : (∃ a, check = .ok a) ↔ defects = [] := by
  constructor
  · rintro ⟨a, ha⟩
    rw [← List.head?_eq_none_iff, Option.eq_none_iff_forall_ne_some]
    intro defect hdefect
    cases ha.symm.trans ((h defect).2 hdefect)
  · intro hnil
    cases hcheck : check with
    | ok a => exact ⟨a, rfl⟩
    | error defect =>
        have hdefect := (h defect).1 hcheck
        rw [hnil] at hdefect
        cases hdefect

theorem require {value : Option α} {defect : Defect} {audit : List Defect}
    (hsome : value.isSome = true → audit = []) (hnone : value = none → audit = [defect]) :
    Reports (Schema.require value defect) audit := by
  cases value with
  | some a => exact hsome rfl ▸ passes a
  | none => exact hnone rfl ▸ fails defect []

theorem ifThenElse {p : Prop} [Decidable p] (a : α) (defect : Defect) :
    Reports (if p then .ok a else .error defect) (if p then [] else [defect]) := by
  split_ifs
  · exact passes a
  · exact fails defect []

end Reports

/-! ### Fields -/

section Fields

variable {e : Element} {field : String}

/-- A field that should hold a string reports what its string reports. -/
theorem Reports.ofString {next : String → Checked α} {further : String → List Defect}
    (h : ∀ s, Reports (next s) (further s)) :
    Reports (e.string field >>= next) (Audit.ofString e field further) := by
  unfold Element.string Audit.ofString Fields.text?
  cases e.fields.get? field with
  | none => exact .fails _ []
  | some json =>
      cases json with
      | string s => exact h s
      | _ => exact .fails _ []

/-- A field that should hold an array reports what its items report. -/
theorem Reports.ofArray {next : List Json → Checked α} {further : List Json → List Defect}
    (h : ∀ items, Reports (next items) (further items)) :
    Reports (e.array field >>= next) (Audit.ofArray e field further) := by
  unfold Element.array Audit.ofArray Fields.items?
  cases e.fields.get? field with
  | none => exact .fails _ []
  | some json =>
      cases json with
      | array items => exact h items
      | _ => exact .fails _ []

/-- The check for a string stops at the defect that its audit lists. -/
theorem string_reports : Reports (e.string field) (Audit.text e field) := by
  rw [← bind_pure (e.string field)]
  exact .ofString fun s => .passes s

/-- So does the check for an optional string. -/
theorem optionalString_reports :
    Reports (e.optionalString field) (Audit.optionalText e field) := by
  unfold Element.optionalString Audit.optionalText
  cases e.fields.get? field with
  | none => exact .passes none
  | some json =>
      cases json with
      | null => exact .passes none
      | string s => exact .passes (some s)
      | _ => exact .fails _ []

/-- The check for an identifier stops at the string or at its shape. -/
theorem identifier_reports : Reports (e.identifier field) (Audit.name e field) :=
  .ofString fun s => .ifThenElse s _

/-- An end of a link reports its shape before it reports that it is unknown. -/
theorem reference_reports {known : List String} {target : String} :
    Reports (e.reference field known target) (Audit.reference known target e field) := by
  rw [Element.reference, Element.identifier, bind_assoc]
  refine .ofString fun s => .bind (.ifThenElse s _) fun value hvalue => ?_
  have hs : s = value := by
    split_ifs at hvalue
    exact Except.ok.inj hvalue
  rw [← hs]
  simp only [List.contains_iff_mem]
  exact .ifThenElse s _

theorem spelling_reports [Vocabulary α] (s : String) :
    Reports (require (Vocabulary.ofSpelling? (α := α) s)
        (.unknownWord e.path field s (Vocabulary.expected α)))
      (Audit.spelling α e field s) := by
  have hmem : (Vocabulary.ofSpelling? (α := α) s).isSome = true ↔
      s ∈ (Vocabulary.members : List α).map Vocabulary.spelling := by
    simp [Vocabulary.ofSpelling?, List.mem_map]
  refine .require (fun hsome => if_pos (hmem.1 hsome)) fun hnone => if_neg fun h => ?_
  rw [← hmem, hnone] at h
  cases h

/-- The check for a word stops at the string or at the word. -/
theorem word_reports [Vocabulary α] : Reports (e.word field α) (Audit.word α e field) :=
  .ofString spelling_reports

theorem cardinality_reports : Reports (e.cardinality field) (Audit.cardinality e field) := by
  refine .ofString fun s => .require (fun hsome => if_pos hsome) fun hnone => if_neg ?_
  rw [hnone]
  exact Bool.false_ne_true

/-- An item that should be a string reports what its string reports. -/
theorem entry_reports {next : String → Checked α} {further : String → List Defect}
    (h : ∀ s, Reports (next s) (further s)) (item : Json) :
    Reports (require item.text? (.notAStringArray e.path field) >>= next)
      (Audit.entry e field further item) := by
  cases item with
  | string s => exact h s
  | _ => exact .fails _ []

/-- The check for a list of strings stops at the list or at its first bad item. -/
theorem stringArray_reports : Reports (e.stringArray field) (Audit.texts e field) := by
  refine .ofArray fun items => .mapM fun item _ => ?_
  rw [← bind_pure (require item.text? _)]
  exact entry_reports (fun s => .passes s) item

/-- The check for keys stops at the list or at the first bad entry. -/
theorem keys_reports : Reports (e.keys field) (Audit.keys e field) := by
  refine .ofArray fun items => .map List.eraseDups (.mapM fun item _ => ?_)
  exact entry_reports spelling_reports item

end Fields

/-! ### Collections -/

section Collections

variable {element : Element → Checked α} {link : List String → Element → Checked β}
  {audit : Element → List Defect} {auditLink : List String → Element → List Defect}

/-- **The check of a collection reports the defects of its items in order.** -/
theorem Reports.checkAll {outer : Path} {collection : String} {items : List Json}
    (h : ∀ e, Reports (element e) (audit e)) :
    Reports (checkAll outer collection element items)
      (Audit.items outer collection audit items) := by
  rw [checkAll_eq_mapM]
  refine .mapM fun item _ => ?_
  obtain ⟨json, index⟩ := item
  cases json with
  | object fields => exact h _
  | _ => exact .fails _ []

theorem missing_reports {collection : String} {fields : Fields} :
    Reports (require (fields.items? collection) (.missingArray collection))
      (Audit.missing collection fields) := by
  refine .require (fun hsome => if_pos hsome) fun hnone => if_neg ?_
  rw [hnone]
  exact Bool.false_ne_true

/-- Of two collections that are missing the first is reported. -/
theorem collections_reports {elements links : String} {fields : Fields} :
    Reports (collections elements links (.object fields))
      (Audit.missing elements fields ++ Audit.missing links fields) :=
  missing_reports.bind fun first _ => missing_reports.map (Prod.mk first)

/-- **The check of a plan reports the defects of its two collections.**  The names that the check
knows are those that the elements give themselves, since all elements have passed by then. -/
theorem Reports.checkPlan {elements nameField links : String} {name : α → String}
    {make : List α → List β → γ} (helement : ∀ e, Reports (element e) (audit e))
    (hname : ∀ path fields a, element ⟨path, fields⟩ = .ok a →
      Fields.text? nameField fields = some (name a))
    (hlink : ∀ known e, Reports (link known e) (auditLink known e)) (plan : Json) :
    Reports (checkPlan elements links element name link make plan)
      (Audit.collections elements nameField links audit auditLink plan) := by
  cases plan with
  | object fields =>
      refine collections_reports.bind fun pair hpair => ?_
      obtain ⟨items, items'⟩ := pair
      obtain ⟨hitems, hitems'⟩ := collections_eq_ok_iff.1 hpair
      rw [show Fields.items? elements fields = some items from hitems,
        show Fields.items? links fields = some items' from hitems']
      refine (Reports.checkAll helement).bind fun as has => ?_
      have hknown : Audit.names nameField items = as.map name := filterMap_of_checkAll hname has
      rw [Option.getD_some, hknown]
      exact (Reports.checkAll (hlink _)).map (make as)
  | _ => exact .fails _ []

end Collections

/-! ### The four kinds -/

/-- A node is checked field by field, in the order of its audit. -/
theorem node_reports (e : Element) : Reports (node e) (Audit.node e) :=
  identifier_reports.bind fun _ _ => string_reports.bind fun _ _ => word_reports.map _

theorem edge_reports (known : List String) (e : Element) :
    Reports (edge known e) (Audit.edge known e) :=
  reference_reports.bind fun _ _ => reference_reports.bind fun _ _ => optionalString_reports.map _

/-- A participant is checked field by field, in the order of its audit. -/
theorem participant_reports (e : Element) : Reports (participant e) (Audit.participant e) :=
  identifier_reports.bind fun _ _ => string_reports.map _

theorem step_reports (known : List String) (e : Element) :
    Reports (step known e) (Audit.step known e) :=
  reference_reports.bind fun _ _ => reference_reports.bind fun _ _ =>
    string_reports.bind fun _ _ => word_reports.map _

/-- A class is checked field by field, in the order of its audit. -/
theorem classBox_reports (e : Element) : Reports (classBox e) (Audit.classBox e) :=
  identifier_reports.bind fun _ _ => stringArray_reports.bind fun _ _ => stringArray_reports.map _

theorem classRelationship_reports (known : List String) (e : Element) :
    Reports (classRelationship known e) (Audit.classRelationship known e) :=
  reference_reports.bind fun _ _ => reference_reports.bind fun _ _ =>
    word_reports.bind fun _ _ => optionalString_reports.map _

theorem column_reports (e : Element) : Reports (column e) (Audit.column e) :=
  string_reports.bind fun _ _ => string_reports.bind fun _ _ => keys_reports.map _

/-- An entity is checked field by field, its columns last. -/
theorem entity_reports (e : Element) : Reports (entity e) (Audit.entity e) :=
  identifier_reports.bind fun _ _ => .ofArray fun _ => (Reports.checkAll column_reports).map _

/-- A relationship of entities is checked end by end and then field by field. -/
theorem entityRelationship_reports (known : List String) (e : Element) :
    Reports (entityRelationship known e) (Audit.entityRelationship known e) :=
  reference_reports.bind fun _ _ => reference_reports.bind fun _ _ =>
    cardinality_reports.bind fun _ _ => string_reports.map _

/-- **The schema reports the defects of the audit.** -/
theorem ofJson_reports (kind : Kind) (plan : Json) :
    Reports (Plan.ofJson kind plan) (Audit.defects kind plan) := by
  cases kind with
  | flowchart =>
      refine .map Plan.flowchart (.checkPlan node_reports (fun _ _ _ h => ?_) edge_reports plan)
      exact (node_eq_ok_iff.1 h).id.text
  | sequence =>
      refine .map Plan.sequence
        (.checkPlan participant_reports (fun _ _ _ h => ?_) step_reports plan)
      exact (participant_eq_ok_iff.1 h).id.text
  | classes =>
      refine .map Plan.classes
        (.checkPlan classBox_reports (fun _ _ _ h => ?_) classRelationship_reports plan)
      exact (classBox_eq_ok_iff.1 h).id.text
  | entityRelation =>
      refine .map Plan.entityRelation
        (.checkPlan entity_reports (fun _ _ _ h => ?_) entityRelationship_reports plan)
      exact (entity_eq_ok_iff.1 h).name.text

/-- **The schema stops at the first defect of the audit.**  It gives a typed plan exactly when the
audit finds nothing, and otherwise the first defect that the audit lists, with its path and the
value at fault, whatever comes after it. -/
theorem ofJson_eq_error_iff_first (kind : Kind) (plan : Json) :
    ((∃ typed, Plan.ofJson kind plan = .ok typed) ↔ Audit.defects kind plan = []) ∧
      ∀ defect, Plan.ofJson kind plan = .error defect ↔
        ∃ rest, Audit.defects kind plan = defect :: rest := by
  have hreports := ofJson_reports kind plan
  refine ⟨hreports.exists_eq_ok_iff, fun defect => ?_⟩
  rw [hreports defect, List.head?_eq_some_iff]

/-- An end that is no identifier is not declared either, and a link that is no object is a defect of
its own. -/
example : Audit.defects .sequence (.object
    [("participants", .array
      [.object [("alias", .string "a"), ("description", .string "")], .object []]),
      ("steps", .array
        [.object [("from", .string "a"), ("to", .string "b c"), ("label", .string ""),
          ("type", .string "Async")], .null])]) =
    [.notAString [⟨"participants", 1⟩] "alias", .notAString [⟨"participants", 1⟩] "description",
      .invalidIdentifier [⟨"steps", 0⟩] "b c",
      .unknownReference [⟨"steps", 0⟩] "to" "participant" "b c",
      .unknownWord [⟨"steps", 0⟩] "type" "Async" (Vocabulary.expected StepKind),
      .elementNotObject [⟨"steps", 1⟩]] := by decide +kernel

end Schema
end CodeDiagram
