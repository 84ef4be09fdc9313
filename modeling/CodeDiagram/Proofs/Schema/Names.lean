/-
# The names in a typed plan

The names of a typed plan are those of its elements and those at the ends of
its links.  Where a plan has passed the schema, all of them are identifiers
(`isValid_of_mem_names`), which is what a document relies on when it writes
them without quotes.
-/

import CodeDiagram.Proofs.Schema.Reading

namespace CodeDiagram

open Json (Fields)

/-- The names of the elements, and those at the ends of the links. -/
def Plan.names : Plan → List String
  | .flowchart p =>
    p.nodes.map Flowchart.Node.id ++ p.edges.flatMap fun edge => [edge.source, edge.target]
  | .sequence p =>
    p.participants.map Sequence.Participant.id ++
      p.steps.flatMap fun step => [step.source, step.target]
  | .classes p =>
    p.classes.map ClassDiagram.ClassBox.id ++
      p.relationships.flatMap fun link => [link.source, link.target]
  | .entityRelation p =>
    p.entities.map EntityRelation.Entity.name ++
      p.relationships.flatMap fun link => [link.source, link.target]

namespace Schema

variable {α β : Type}

/-- What holds of the names of elements and links holds of the elements and of both ends of each
link. -/
theorem forall_names_iff {P : String → Prop} {as : List α} {bs : List β} {name : α → String}
    {source target : β → String} :
    (∀ s ∈ as.map name ++ bs.flatMap (fun b => [source b, target b]), P s) ↔
      (∀ a ∈ as, P (name a)) ∧ ∀ b ∈ bs, P (source b) ∧ P (target b) := by
  rw [List.forall_mem_append, List.forall_mem_map, List.forall_mem_flatMap]
  simp only [List.forall_mem_cons, List.not_mem_nil, false_imp_iff, forall_const, and_true]

/-- What is described was described by an item. -/
theorem exists_item_of_forall₂ {describes : Fields → α → Prop} {items : List Json} {as : List α}
    (h : List.Forall₂ (Describes.Item describes) items as) {a : α} (ha : a ∈ as) :
    ∃ fields, describes fields a := by
  induction h with
  | nil => cases ha
  | cons hitem _ ih =>
      rcases List.mem_cons.1 ha with rfl | ha
      · obtain ⟨fields, -, hdescribes⟩ := hitem
        exact ⟨fields, hdescribes⟩
      · exact ih ha

/-- Described names are identifiers, if elements are described with a name and links with two. -/
theorem isValid_of_collections {elements links : String} {element : Fields → α → Prop}
    {name : α → String} {link : List String → Fields → β → Prop} {source target : β → String}
    {plan : Json} {as : List α} {bs : List β}
    (h : Describes.Collections elements links element name link plan as bs)
    (hname : ∀ fields a, element fields a → IsName (name a))
    (hends : ∀ known fields b, link known fields b →
      Describes.Ends known fields (source b) (target b)) :
    ∀ s ∈ as.map name ++ bs.flatMap (fun b => [source b, target b]),
      Identifier.isValid s = true := by
  simp only [isValid_iff_isName]
  refine forall_names_iff.2 ⟨fun a ha => ?_, fun b hb => ?_⟩
  · obtain ⟨items, -, hitems⟩ := h.elements
    obtain ⟨fields, hdescribes⟩ := exists_item_of_forall₂ hitems ha
    exact hname fields a hdescribes
  · obtain ⟨items, -, hitems⟩ := h.links
    obtain ⟨fields, hdescribes⟩ := exists_item_of_forall₂ hitems hb
    have hnames := hends _ fields b hdescribes
    exact ⟨hnames.source_name.isName, hnames.target_name.isName⟩

/-- **The names in a typed plan are identifiers.** -/
theorem isValid_of_mem_names {kind : Kind} {plan : Json} {typed : Plan}
    (h : Plan.ofJson kind plan = .ok typed) :
    ∀ name ∈ typed.names, Identifier.isValid name = true := by
  obtain rfl := kind_of_ofJson h
  replace h := ofJson_kind_eq_ok_iff.1 h
  cases typed with
  | flowchart p =>
      exact isValid_of_collections h (fun _ _ h => h.id.isName) fun _ _ _ h => h.ends
  | sequence p =>
      exact isValid_of_collections h (fun _ _ h => h.id.isName) fun _ _ _ h => h.ends
  | classes p =>
      exact isValid_of_collections h (fun _ _ h => h.id.isName) fun _ _ _ h => h.ends
  | entityRelation p =>
      exact isValid_of_collections h (fun _ _ h => h.name.isName) fun _ _ _ h => h.ends

end Schema
end CodeDiagram
