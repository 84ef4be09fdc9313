/-
# Reading a class diagram back

A class diagram shows a class by its identifier and the lines of its body, and a
relationship by its ends, its kind and its label, if that is not blank.  The
lines of a body are free text, but they have no brace and do not open with a
blank, so the items of a class diagram are legible (`legible_of_mem_items`).

| item | first characters |
| --- | --- |
| class | `class`, a space, letters, and then the end or a space and a brace |
| relationship | letters, a space, perhaps an `o`, and then `-` or `*` |

A class may be called `class` or `o`: a relationship is told from a class by a
character that is no letter and no space.  So two class diagrams with classes
have the same document exactly when they show the same, and of one document the
classes and the relationships are read back
(`text_eq_iff_classes_relationships`).
-/

import CodeDiagram.Proofs.Document.Outline

namespace CodeDiagram
namespace ClassDiagram

open Document (Outlined hasBrace hasBrace_eq_false_iff isHeaderChar isHeaderChar_of_isValid
  isMark)
open Identifier (isLetter isValid)
open Label
open Text (ends_append isBlank)

/-- What a document shows of a class. -/
def ClassBox.shown (box : ClassBox) : String × List String := (box.id, box.members)

/-- What a document shows of a relationship. -/
def Relationship.shown (link : Relationship) : String × String × RelationKind × Option String :=
  (link.source, link.target, link.kind, shown? link.label)

/-! ### Classes -/

/-- A line of a class body has no brace and does not open with a blank. -/
theorem legible_of_mem_members {box : ClassBox} {member : String} (h : member ∈ box.members) :
    Span.Ends isBlank member.toList ∧ hasBrace member = false := by
  rw [hasBrace_eq_false_iff]
  rcases List.mem_append.1 h with h | h
  · obtain ⟨text, -, hmember⟩ := List.mem_filterMap.1 h
    exact ⟨ends_member? hmember, ne_brace_of_mem_member? hmember⟩
  · obtain ⟨shown, hshown, rfl⟩ := List.mem_map.1 h
    obtain ⟨text, -, hmember⟩ := List.mem_filterMap.1 hshown
    exact ⟨ends_withCall (ends_member? hmember),
      ne_brace_of_mem_withCall (ne_brace_of_mem_member? hmember)⟩

theorem isHeaderChar_header {box : ClassBox} (hid : isValid box.id = true) :
    ∀ c ∈ ("class " ++ box.id).toList, isHeaderChar c = true := by
  rw [String.toList_append, List.forall_mem_append]
  exact ⟨List.all_eq_true.1 (by decide), isHeaderChar_of_isValid hid⟩

/-- **A class is legible, and passes for no relationship.** -/
theorem legible_item {box : ClassBox} (hid : isValid box.id = true) :
    box.item.Legible ∧ box.item.isLink = false := by
  refine Item.legible_element (fun t => ?_) (isHeaderChar_header hid) fun member h =>
    legible_of_mem_members h
  rw [String.append_assoc]
  exact ends_append (by decide)

/-- **Classes with the same item show the same.** -/
theorem ClassBox.item_eq_item_iff {box box' : ClassBox} :
    box.item = box'.item ↔ box.shown = box'.shown := by
  rw [item, item, Item.element_eq_element_iff List.isEmpty_iff List.isEmpty_iff,
    String.append_right_inj, shown, shown, Prod.mk.injEq]

/-! ### Relationships -/

/-- What follows the target of a relationship with this label. -/
def caption : Option String → String
  | some label => " : " ++ label
  | none => ""

theorem Relationship.line_eq (link : Relationship) :
    link.line = link.source ++ (" " ++ (arrow link.kind ++ (" " ++
      (link.target ++ caption (shown? link.label))))) := by
  rw [line]
  cases shown? link.label <;> simp only [caption, String.append_assoc]

/-- **Three characters of an arrow say which kind the relationship is of.** -/
theorem arrow_append_inj {kind kind' : RelationKind} {t t' : String} :
    arrow kind ++ t = arrow kind' ++ t' ↔ kind = kind' ∧ t = t' := by
  refine code_append_inj (n := 3) (fun kind => ?_) ?_
  · cases kind <;> decide
  · cases kind <;> cases kind' <;> decide

theorem ends_caption (label : Option String) : Span.Ends isLetter (caption label).toList := by
  cases label with
  | none => exact fun c hc => nomatch hc
  | some label => exact ends_append (by decide)

theorem caption_inj {label label' : Option String} :
    caption label = caption label' ↔ label = label' := by
  cases label <;> cases label' <;> simp [caption]

/-- **Relationships with the same line show the same.** -/
theorem Relationship.line_eq_line_iff {link link' : Relationship}
    (hends : isValid link.source = true ∧ isValid link.target = true)
    (hends' : isValid link'.source = true ∧ isValid link'.target = true) :
    link.line = link'.line ↔ link.shown = link'.shown := by
  rw [Relationship.line_eq, Relationship.line_eq,
    name_append_inj hends.1 hends'.1 (ends_append (by decide)) (ends_append (by decide)),
    String.append_right_inj, arrow_append_inj, String.append_right_inj,
    name_append_inj hends.2 hends'.2 (ends_caption _) (ends_caption _), caption_inj,
    Relationship.shown, Relationship.shown, Prod.mk.injEq, Prod.mk.injEq, Prod.mk.injEq,
    and_left_comm (a := link.kind = _)]

/-- **A relationship is legible, and passes for no class.** -/
theorem legible_relationship {link : Relationship} (hsource : isValid link.source = true) :
    (Item.line link.line).Legible ∧ (Item.line link.line).isLink = true := by
  have hmark : isMark (arrow link.kind) = true := by cases link.kind <;> decide
  rw [Relationship.line_eq]
  exact Item.legible_link hsource hmark _

/-! ### Documents -/

/-- **The items of a class diagram are legible.** -/
theorem outlined {plan : ClassDiagram} (hnames : ∀ s ∈ (Plan.classes plan).names, isValid s = true)
    (hne : plan.classes ≠ []) :
    Outlined (.classes plan) (plan.classes.map ClassBox.item)
      (plan.relationships.map fun link => .line link.line) where
  names := hnames
  items := by rw [Plan.document, document, body_of_classes hne]
  elements := List.forall_mem_map.2 fun _ hbox =>
    legible_item ((Schema.forall_names_iff.1 hnames).1 _ hbox)
  links := List.forall_mem_map.2 fun _ hlink =>
    legible_relationship ((Schema.forall_names_iff.1 hnames).2 _ hlink).1

/-- **Class diagrams have the same document exactly when they show the same.**  Of two plans that
have passed the schema and have classes, the documents have the same text just when the plans have,
in the same order, classes with the same identifiers and lines of the body, and relationships with
the same ends, kinds and labels, where a blank label counts as none and others are compared as they
are quoted.  From the text, in which the first brace of a body ends it, just the classes with their
bodies and the relationships are read back: no member closes a body, opens one or passes for a
relationship. -/
theorem text_eq_iff_classes_relationships {json json' : Json} {plan plan' : ClassDiagram}
    (h : Plan.ofJson .classes json = .ok (.classes plan))
    (h' : Plan.ofJson .classes json' = .ok (.classes plan'))
    (hne : plan.classes ≠ []) (hne' : plan'.classes ≠ []) :
    (plan.document.text = plan'.document.text ↔
      plan.classes.map ClassBox.shown = plan'.classes.map ClassBox.shown ∧
        plan.relationships.map Relationship.shown = plan'.relationships.map Relationship.shown) ∧
      (Document.readText plan.document.text).map (List.partition Item.isLink) =
        some (plan.relationships.map fun link => .line link.line,
          plan.classes.map ClassBox.item) := by
  have hnames := Schema.isValid_of_mem_names h
  have hnames' := Schema.isValid_of_mem_names h'
  have houtlined := outlined hnames hne
  refine ⟨?_, houtlined.partition_readText⟩
  have hclasses : plan.classes.map ClassBox.item = plan'.classes.map ClassBox.item ↔
      plan.classes.map ClassBox.shown = plan'.classes.map ClassBox.shown :=
    Document.map_eq_map_iff_of_forall fun _ _ _ _ => ClassBox.item_eq_item_iff
  have hlinks : (plan.relationships.map fun link => Item.line link.line) =
      (plan'.relationships.map fun link => .line link.line) ↔
        plan.relationships.map Relationship.shown = plan'.relationships.map Relationship.shown :=
    Document.map_line_eq_map_line_iff fun link hlink link' hlink' =>
      Relationship.line_eq_line_iff ((Schema.forall_names_iff.1 hnames).2 link hlink)
        ((Schema.forall_names_iff.1 hnames').2 link' hlink')
  rw [← hclasses, ← hlinks]
  exact houtlined.text_eq_text_iff (outlined hnames' hne') rfl

/-- A class named like the keyword, with one property, and a relationship whose label is a
brace. -/
def snare (property : String) : Json :=
  .object
    [("classes", .array
      [.object [("id", .string "class"), ("properties", .array [.string property]),
        ("methods", .array [.string "run"])]]),
      ("relationships", .array
        [.object [("from", .string "class"), ("to", .string "class"),
          ("type", .string "aggregation"), ("label", .string "\x7b")]])]

/-- The typed plan of `snare`. -/
def snarePlan (property : String) : ClassDiagram where
  classes := [⟨"class", [property], ["run"]⟩]
  relationships := [⟨"class", "class", .aggregation, some "\x7b"⟩]

/-- `text_eq_iff_classes_relationships` at work: braces make no difference, but a property is no
method, and a property that spells the end of its class stays in it. -/
theorem text_eq_iff_classes_relationships_snare :
    (snarePlan "a\x7d b").document.text = (snarePlan " a\nb \x7b").document.text ∧
      (snarePlan "run").document.text ≠ (snarePlan "run()").document.text ∧
      (Document.readText (snarePlan "\x7d\nclass --> o\nclass o \x7b").document.text).map
          (List.partition Item.isLink) =
        some ([.line "class o-- class : \x7b"],
          [.block "class class" ["class --> o class o", "run()"]]) := by
  have haccepted : ∀ property,
      Plan.ofJson .classes (snare property) = .ok (.classes (snarePlan property)) := fun _ => rfl
  refine ⟨?_, ?_, ?_⟩
  · exact (text_eq_iff_classes_relationships (haccepted _) (haccepted _) (by decide)
      (by decide)).1.2 (by decide +kernel)
  · exact mt (text_eq_iff_classes_relationships (haccepted _) (haccepted _) (by decide)
      (by decide)).1.1 (by decide +kernel)
  · exact (text_eq_iff_classes_relationships (haccepted _) (haccepted "") (by decide)
      (by decide)).2.trans (by decide +kernel)

end ClassDiagram
end CodeDiagram
