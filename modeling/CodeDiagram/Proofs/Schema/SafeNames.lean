/-
# Names of a repaired plan are safe

The shared invariant of section 3 of `SPEC_FULL.md`.

The repair and the schema read the elements on their own, and they agree.  The
names of a repaired plan are admitted (`admits_of_mem_names`), so the schema
never finds a bad one, and once the elements have passed, the names that the
schema knows are those against which the links were rewired
(`known_of_checkAll`).  What the schema can still find is `Harmless`: a missing
collection, an element that is no object, a field beside the names and the ends
of another form than it demands.
-/

import CodeDiagram.Proofs.Repair.Idempotence
import CodeDiagram.Proofs.Repair.Rewiring
import CodeDiagram.Proofs.Schema.Reading

namespace CodeDiagram

open Json (Fields)
open Repair (recipe repairedElements repairedLinks)

namespace Schema

variable {α β γ : Type} {kind : Kind} {plan : Json}

/-- The defect blames neither a name, nor a reference, nor the form of a link or its ends. -/
def Harmless (links : String) : Defect → Prop
  | .invalidIdentifier .. => False
  | .unknownReference .. => False
  | .elementNotObject path => ∀ index, path ≠ [⟨links, index⟩]
  | .notAString path field => ∀ index, path = [⟨links, index⟩] → field ≠ "from" ∧ field ≠ "to"
  | _ => True

theorem harmless_of_ne {links field : String} {path : Path} (h : field ≠ "from" ∧ field ≠ "to") :
    Harmless links (.notAString path field) := fun _ _ => h

theorem path_ne_of_elements (kind : Kind) (index index' : Nat) :
    [PathStep.mk (recipe kind).elements index] ≠ [⟨(recipe kind).links, index'⟩] := by
  intro h
  have hstep := (List.cons.inj h).1
  exact Repair.elements_ne_links kind (congrArg PathStep.collection hstep)

theorem harmless_element (kind : Kind) (index : Nat) (field : String) :
    Harmless (recipe kind).links (.notAString [⟨(recipe kind).elements, index⟩] field) :=
  fun _ h => absurd h (path_ne_of_elements kind index _)

/-- Both ends of the link are known names. -/
structure Linked (known : List String) (link : Fields) : Prop where
  source : ∃ s, link.text? "from" = some s ∧ Identifier.isValid s = true ∧ s ∈ known
  target : ∃ s, link.text? "to" = some s ∧ Identifier.isValid s = true ∧ s ∈ known

theorem Raises.reference {allowed : Defect → Prop} {e : Element} {field target : String}
    {known : List String}
    (h : ∃ s, e.fields.text? field = some s ∧ Identifier.isValid s = true ∧ s ∈ known) :
    Raises allowed (e.reference field known target) := by
  obtain ⟨s, hs⟩ := h
  exact .of_eq_ok (Element.reference_eq_ok_iff.2 hs)

/-! ### The names that the schema knows -/

/-- The names of the elements are those of what they describe. -/
theorem names_of_describes {describes : Fields → α → Prop} {name : α → String} {items : List Json}
    {as : List α}
    (hname : ∀ fields a, describes fields a →
      Fields.text? (recipe kind).nameField fields = some (name a))
    (h : List.Forall₂ (Describes.Item describes) items as) :
    items.filterMap (recipe kind).nameOf? = as.map name := by
  refine filterMap_eq_map_of_forall₂ (fun item a hitem => ?_) h
  obtain ⟨fields, rfl, hfields⟩ := hitem
  exact hname fields a hfields

/-- **The schema knows the names of the repaired elements.** -/
theorem known_of_checkAll (kind : Kind) {element : Element → Checked α} {name : α → String}
    {as : List α}
    (hname : ∀ path fields a, element ⟨path, fields⟩ = .ok a →
      Fields.text? (recipe kind).nameField fields = some (name a))
    (h : checkAll [] (recipe kind).elements element (repairedElements kind plan) = .ok as) :
    (repairedElements kind plan).filterMap (recipe kind).nameOf? = as.map name :=
  filterMap_of_checkAll hname h

/-- **A repaired link joins known names.** -/
theorem linked_of_mem_repairedLinks {item : Json} (h : item ∈ repairedLinks kind plan) :
    ∃ link, item = .object link ∧
      Linked ((repairedElements kind plan).filterMap (recipe kind).nameOf?) link := by
  obtain ⟨link, source, target, rfl, hfrom, hto, hsource, htarget⟩ :=
    Repair.ends_of_mem_repairedLinks h
  exact ⟨link, rfl, ⟨source, hfrom, (Repair.admits_of_mem_names hsource).valid, hsource⟩,
    ⟨target, hto, (Repair.admits_of_mem_names htarget).valid, htarget⟩⟩

/-- **A repaired plan fails harmlessly**, if elements with a valid name and links between known
names do. -/
theorem harmless_checkPlan (kind : Kind) {element : Element → Checked α} {name : α → String}
    {link : List String → Element → Checked β} (make : List α → List β → γ)
    (hname : ∀ path fields a, element ⟨path, fields⟩ = .ok a →
      Fields.text? (recipe kind).nameField fields = some (name a))
    (helement : ∀ index fields,
      (∀ s ∈ Fields.text? (recipe kind).nameField fields, Identifier.isValid s = true) →
        Raises (Harmless (recipe kind).links)
          (element ⟨[⟨(recipe kind).elements, index⟩], fields⟩))
    (hlink : ∀ path known fields, Linked known fields →
      Raises (Harmless (recipe kind).links) (link known ⟨path, fields⟩)) (plan : Json) :
    Raises (Harmless (recipe kind).links)
      (checkPlan (recipe kind).elements (recipe kind).links element name link make
        (plan.repair kind)) := by
  refine .checkPlan ?_ (fun items hitems => ?_) (fun items links as hitems hlinks has => ?_)
  · exact .bind (.require trivial) fun _ _ => .bind (.require trivial) fun _ _ =>
      .bind (.require trivial) fun _ _ => .of_eq_ok rfl
  · refine .checkAll fun index item hitem => .checkItem (fun _ => ?_) fun fields hfields => ?_
    · exact fun index' => path_ne_of_elements kind index index'
    · refine helement index fields fun s hs => ?_
      rw [Repair.eq_repairedElements hitems] at hitem
      have hmem : s ∈ (repairedElements kind plan).filterMap (recipe kind).nameOf? :=
        List.mem_filterMap.2 ⟨item, List.mem_of_getElem? hitem, hfields ▸ hs⟩
      exact (Repair.admits_of_mem_names hmem).valid
  · rw [Repair.eq_repairedElements hitems] at has
    rw [Repair.eq_repairedLinks hlinks, ← known_of_checkAll kind hname has]
    refine .checkAll fun index item hitem => ?_
    obtain ⟨fields, rfl, hfields⟩ := linked_of_mem_repairedLinks (List.mem_of_getElem? hitem)
    exact hlink _ _ fields hfields

/-! ### The four kinds -/

theorem harmless_flowchart (plan : Json) :
    Raises (Harmless "edges") (flowchart (plan.repair .flowchart)) := by
  rw [flowchart_eq_checkPlan]
  refine harmless_checkPlan .flowchart _ (fun _ _ _ h => (node_eq_ok_iff.1 h).id.text)
    (fun index fields hvalid => ?_) (fun path known fields hlinked => ?_) plan
  · have hstring := harmless_element .flowchart index
    exact .bind (Element.identifier_raises hvalid (hstring _)) fun _ _ =>
      .bind (Element.string_raises (hstring _)) fun _ _ =>
        .bind (Element.word_raises (hstring _) fun _ _ => trivial) fun _ _ => .of_eq_ok rfl
  · exact .bind (.reference hlinked.source) fun _ _ => .bind (.reference hlinked.target) fun _ _ =>
      .bind (Element.optionalString_raises trivial) fun _ _ => .of_eq_ok rfl

theorem harmless_sequence (plan : Json) :
    Raises (Harmless "steps") (sequence (plan.repair .sequence)) := by
  rw [sequence_eq_checkPlan]
  refine harmless_checkPlan .sequence _ (fun _ _ _ h => (participant_eq_ok_iff.1 h).id.text)
    (fun index fields hvalid => ?_) (fun path known fields hlinked => ?_) plan
  · have hstring := harmless_element .sequence index
    exact .bind (Element.identifier_raises hvalid (hstring _)) fun _ _ =>
      .bind (Element.string_raises (hstring _)) fun _ _ => .of_eq_ok rfl
  · exact .bind (.reference hlinked.source) fun _ _ => .bind (.reference hlinked.target) fun _ _ =>
      .bind (Element.string_raises (harmless_of_ne (by decide))) fun _ _ =>
        .bind (Element.word_raises (harmless_of_ne (by decide)) fun _ _ => trivial) fun _ _ =>
          .of_eq_ok rfl

theorem harmless_classDiagram (plan : Json) :
    Raises (Harmless "relationships") (classDiagram (plan.repair .classes)) := by
  rw [classDiagram_eq_checkPlan]
  refine harmless_checkPlan .classes _ (fun _ _ _ h => (classBox_eq_ok_iff.1 h).id.text)
    (fun index fields hvalid => ?_) (fun path known fields hlinked => ?_) plan
  · have hstring := harmless_element .classes index
    exact .bind (Element.identifier_raises hvalid (hstring _)) fun _ _ =>
      .bind (Element.stringArray_raises trivial trivial) fun _ _ =>
        .bind (Element.stringArray_raises trivial trivial) fun _ _ => .of_eq_ok rfl
  · exact .bind (.reference hlinked.source) fun _ _ => .bind (.reference hlinked.target) fun _ _ =>
      .bind (Element.word_raises (harmless_of_ne (by decide)) fun _ _ => trivial) fun _ _ =>
        .bind (Element.optionalString_raises trivial) fun _ _ => .of_eq_ok rfl

theorem harmless_column (links : String) (entity position : PathStep) (fields : Fields) :
    Raises (Harmless links) (column ⟨[entity, position], fields⟩) := by
  have hstring : ∀ field, Harmless links (.notAString [entity, position] field) := by
    intro field index h
    cases (List.cons.inj h).2
  exact .bind (Element.string_raises (hstring _)) fun _ _ =>
    .bind (Element.string_raises (hstring _)) fun _ _ =>
      .bind (Element.keys_raises trivial trivial fun _ _ => trivial) fun _ _ => .of_eq_ok rfl

theorem harmless_entityRelation (plan : Json) :
    Raises (Harmless "relationships") (entityRelation (plan.repair .entityRelation)) := by
  rw [entityRelation_eq_checkPlan]
  refine harmless_checkPlan .entityRelation _ (fun _ _ _ h => (entity_eq_ok_iff.1 h).name.text)
    (fun index fields hvalid => ?_) (fun path known fields hlinked => ?_) plan
  · have hstring := harmless_element .entityRelation index
    refine .bind (Element.identifier_raises hvalid (hstring _)) fun _ _ =>
      .bind (Element.array_raises trivial) fun _ _ => .bind (.checkAll fun position item _ => ?_)
        fun _ _ => .of_eq_ok rfl
    refine .checkItem (fun _ index' h => ?_) fun fields _ => harmless_column _ _ _ fields
    cases (List.cons.inj h).2
  · exact .bind (.reference hlinked.source) fun _ _ => .bind (.reference hlinked.target) fun _ _ =>
      .bind (Element.cardinality_raises (harmless_of_ne (by decide)) fun _ => trivial) fun _ _ =>
        .bind (Element.string_raises (harmless_of_ne (by decide))) fun _ _ => .of_eq_ok rfl

/-- **What the schema finds in a repaired plan is harmless.** -/
theorem harmless_ofJson_repair (kind : Kind) (plan : Json) :
    Raises (Harmless (recipe kind).links) (Plan.ofJson kind (plan.repair kind)) := by
  cases kind with
  | flowchart => exact (harmless_flowchart plan).map _
  | sequence => exact (harmless_sequence plan).map _
  | classes => exact (harmless_classDiagram plan).map _
  | entityRelation => exact (harmless_entityRelation plan).map _

/-! ### Names -/

/-- The reserved words are in lower case. -/
theorem map_toLower_reserved (kind : Kind) :
    ∀ word ∈ kind.reserved, word.toList.map Char.toLower = word.toList := by
  cases kind <;> decide

/-- A name is reserved when it is a reserved word in any case. -/
theorem isReserved_iff {name : String} : kind.naming.isReserved name = true ↔
    ∃ word ∈ kind.reserved, name.toList.map Char.toLower = word.toList.map Char.toLower := by
  have hreserved : kind.naming.reserved = kind.reserved := by cases kind <;> rfl
  rw [Identifier.Naming.isReserved, hreserved, List.contains_iff_mem]
  constructor
  · intro hmem
    refine ⟨_, hmem, ?_⟩
    rw [map_toLower_reserved kind _ hmem, String.toList_ofList]
  · rintro ⟨word, hword, hsame⟩
    rw [hsame, map_toLower_reserved kind word hword, String.ofList_toList]
    exact hword

/-- A name that is not reserved is no reserved word in any case. -/
theorem map_toLower_ne_of_unreserved {name word : String}
    (h : kind.naming.isReserved name = false) (hword : word ∈ kind.reserved) :
    name.toList.map Char.toLower ≠ word.toList.map Char.toLower :=
  fun hsame => Bool.eq_false_iff.1 h (isReserved_iff.2 ⟨word, hword, hsame⟩)

/-- **No unsafe name gets past the repair.**  The name of a repaired element is a non-empty text
over `A–Z a–z 0–9 _`, no reserved word of the kind in any case, and for entity relations it opens
with a letter or `_`.  The schema then never finds a bad identifier or an unknown reference in the
repaired plan, nor a link that is no object or has an end that is no string. -/
theorem names_of_repair_safe (kind : Kind) (plan : Json) :
    (∀ name ∈ (repairedElements kind plan).filterMap (recipe kind).nameOf?,
      name ≠ "" ∧ (∀ c ∈ name.toList, c.isAlphanum = true ∨ c = '_') ∧
        (∀ word ∈ kind.reserved, name.toList.map Char.toLower ≠ word.toList.map Char.toLower) ∧
        (kind = .entityRelation →
          ∃ c ∈ name.toList.head?, c.isAlpha = true ∨ c = '_')) ∧
      (∀ path value, Plan.ofJson kind (plan.repair kind) ≠ .error (.invalidIdentifier path value)) ∧
      (∀ path field target value,
        Plan.ofJson kind (plan.repair kind) ≠ .error (.unknownReference path field target value)) ∧
      ∀ index, Plan.ofJson kind (plan.repair kind) ≠
          .error (.elementNotObject [⟨(recipe kind).links, index⟩]) ∧
        ∀ field ∈ ["from", "to"], Plan.ofJson kind (plan.repair kind) ≠
          .error (.notAString [⟨(recipe kind).links, index⟩] field) := by
  have hharmless := harmless_ofJson_repair kind plan
  refine ⟨fun name hname => ?_, fun path value h => hharmless _ h,
    fun path field target value h => hharmless _ h, fun index =>
    ⟨fun h => hharmless _ h index rfl, fun field hfield h => ?_⟩⟩
  · have hadmits := Repair.admits_of_mem_names hname
    obtain ⟨hne, hletters⟩ := Identifier.isValid_iff.1 hadmits.valid
    refine ⟨fun h => hne (String.toList_eq_nil_iff.2 h), fun c hc => ?_,
      fun word hword => map_toLower_ne_of_unreserved hadmits.unreserved hword, fun hkind => ?_⟩
    · simpa [Identifier.isLetter] using hletters c hc
    · subst hkind
      obtain ⟨c, hc, hopening⟩ := (Option.any_eq_true _ _).1 (hadmits.opens rfl)
      exact ⟨c, hc, by simpa [Identifier.isOpening] using hopening⟩
  · have hends := hharmless _ h index rfl
    rcases List.mem_cons.1 hfield with rfl | hfield
    · exact hends.1 rfl
    · exact hends.2 (List.mem_singleton.1 hfield)

/-- Entities whose names are a cardinality word, open with a digit and keep no letter. -/
def ragged : Json :=
  .object
    [("entities", .array
      [.object [("name", .string "To")], .object [("name", .string "2nd row")],
        .object [("name", .string "…")]]),
      ("relationships", .array
        [.object [("from", .string "To"), ("to", .null)],
          .object [("from", .string "…"), ("to", .string "2ndrow")]])]

/-- `names_of_repair_safe` at work: `To` is marked, `2nd row` prefixed and `…` numbered. -/
theorem names_of_repair_safe_ragged :
    (repairedElements .entityRelation ragged).filterMap (recipe .entityRelation).nameOf? =
        ["To_", "entity_2ndrow", "entity_0"] ∧
      (∀ word ∈ Kind.entityRelation.reserved,
        "To_".toList.map Char.toLower ≠ word.toList.map Char.toLower) ∧
      ∃ c ∈ "entity_2ndrow".toList.head?, c.isAlpha = true ∨ c = '_' := by
  have hnames : (repairedElements .entityRelation ragged).filterMap
      (recipe .entityRelation).nameOf? = ["To_", "entity_2ndrow", "entity_0"] := by
    decide +kernel
  obtain ⟨hsafe, -⟩ := names_of_repair_safe .entityRelation ragged
  rw [hnames] at hsafe
  exact ⟨hnames, (hsafe "To_" (by decide)).2.2.1, (hsafe "entity_2ndrow" (by decide)).2.2.2 rfl⟩

end Schema
end CodeDiagram
