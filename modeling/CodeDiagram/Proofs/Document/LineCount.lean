/-
# How many lines a document has

The number of lines of a document follows from the numbers of elements, links,
columns and surviving class members alone, whatever the free texts hold
(`lineCount_of_ofJson`):

| part | lines |
| --- | --- |
| declaration | 1 |
| looks of the nodes of a flowchart | 4 |
| node, edge, participant, step, relationship | 1 |
| class, entity | 1 without a body, else 2 and one for each line of the body |

So no text brings in, parts or takes away a line.
-/

import CodeDiagram.Proofs.Document.Lines
import Mathlib.Algebra.GroupWithZero.Nat

namespace CodeDiagram

open Label (member? survives isSome_member?)
open Text (isBlank splitLines)

/-- The number of lines of an item whose body has `n` lines.  A body without lines is left out, with
both of its braces. -/
def withBody (n : Nat) : Nat := if n = 0 then 1 else 2 + n

namespace Plan

/-- The number of elements. -/
def elementCount : Plan → Nat
  | .flowchart p => p.nodes.length
  | .sequence p => p.participants.length
  | .classes p => p.classes.length
  | .entityRelation p => p.entities.length

/-- The number of lines that show a plan with elements. -/
def lineCount : Plan → Nat
  | .flowchart p => 5 + p.nodes.length + p.edges.length
  | .sequence p => 1 + p.participants.length + p.steps.length
  | .classes p =>
    1 + p.relationships.length +
      (p.classes.map fun box =>
        withBody ((box.properties ++ box.methods).countP survives)).sum
  | .entityRelation p =>
    1 + p.relationships.length + (p.entities.map fun entity => withBody entity.columns.length).sum

end Plan

/-! ### Items -/

theorem Item.length_lines (item : Item) : item.lines.length = item.texts.length := by
  cases item with
  | line text => rfl
  | block header body =>
      rw [lines, texts, List.length_append, List.length_cons, List.length_map, List.length_append,
        List.length_cons]
      rfl

/-- An item whose body may be left out. -/
theorem Item.length_texts_ite {b : Bool} {bare header : String} {body : List String}
    (h : b = true ↔ body = []) :
    (if b then Item.line bare else .block header body).texts.length = withBody body.length := by
  rw [withBody]
  split_ifs with hb hnone hnone
  · rfl
  · exact absurd (List.length_eq_zero_iff.2 (h.1 hb)) hnone
  · exact absurd (h.2 (List.length_eq_zero_iff.1 hnone)) hb
  · rw [texts, List.length_append, List.length_cons, List.length_singleton]
    omega

/-- The number of lines of the items. -/
def Item.height (items : List Item) : Nat := (items.map fun item => item.texts.length).sum

namespace Item

variable {α : Type}

theorem height_append (items items' : List Item) :
    height (items ++ items') = height items + height items' := by
  rw [height, List.map_append, List.sum_append]
  rfl

/-- Items that are lines. -/
theorem height_map_line (as : List α) (text : α → String) :
    height (as.map fun a => .line (text a)) = as.length := by
  rw [height, List.map_map]
  show (as.map fun _ => 1).sum = as.length
  rw [List.map_const', List.sum_replicate_nat, Nat.mul_one]

/-- Items with a body of known length. -/
theorem height_map_of {as : List α} {item : α → Item} {n : α → Nat}
    (h : ∀ a ∈ as, (item a).texts.length = withBody (n a)) :
    height (as.map item) = (as.map fun a => withBody (n a)).sum := by
  rw [height, List.map_map]
  exact congrArg List.sum (List.map_congr_left h)

end Item

theorem Document.length_lines (d : Document) : d.lines.length = 1 + Item.height d.items := by
  rw [lines, List.length_cons, List.length_flatMap, Nat.add_comm, Item.height,
    List.map_congr_left fun item _ => item.length_lines]

/-! ### The bodies of classes and entities -/

namespace ClassDiagram

/-- **A class body has a line for each text that survives.** -/
theorem length_members (box : ClassBox) :
    box.members.length = (box.properties ++ box.methods).countP survives := by
  rw [ClassBox.members, List.length_append, List.length_map, List.length_filterMap_eq_countP,
    List.length_filterMap_eq_countP, List.countP_append]
  simp only [isSome_member?]

theorem length_texts_item (box : ClassBox) :
    box.item.texts.length = withBody ((box.properties ++ box.methods).countP survives) := by
  rw [ClassBox.item, Item.length_texts_ite List.isEmpty_iff, length_members]

end ClassDiagram

theorem EntityRelation.length_texts_item (entity : Entity) :
    entity.item.texts.length = withBody entity.columns.length := by
  rw [Entity.item, Item.length_texts_ite (List.isEmpty_iff.trans List.map_eq_nil_iff.symm),
    List.length_map]

/-! ### Documents -/

/-- **The lines of a document** that shows elements. -/
theorem Document.length_lines_of_plan {plan : Plan} (h : 0 < plan.elementCount) :
    plan.document.lines.length = plan.lineCount := by
  rw [length_lines]
  cases plan with
  | flowchart p =>
      rw [Plan.document, Flowchart.document, Flowchart.body_of_nodes (List.ne_nil_of_length_pos h),
        Item.height_append, Item.height_append, Item.height_map_line, Item.height_map_line,
        Item.height_map_line, Plan.lineCount, show Flowchart.styles.length = 4 from rfl]
      omega
  | sequence p =>
      rw [Plan.document, Sequence.document,
        Sequence.body_of_participants (List.ne_nil_of_length_pos h), Item.height_append,
        Item.height_map_line, Item.height_map_line, Plan.lineCount]
      omega
  | classes p =>
      rw [Plan.document, ClassDiagram.document,
        ClassDiagram.body_of_classes (List.ne_nil_of_length_pos h), Item.height_append,
        Item.height_map_line, Item.height_map_of fun box _ => ClassDiagram.length_texts_item box,
        Plan.lineCount]
      omega
  | entityRelation p =>
      rw [Plan.document, EntityRelation.document,
        EntityRelation.body_of_entities (List.ne_nil_of_length_pos h), Item.height_append,
        Item.height_map_line,
        Item.height_map_of fun entity _ => EntityRelation.length_texts_item entity,
        Plan.lineCount]
      omega

/-- The blanks of a document are the spaces in its lines and the line feeds between them. -/
theorem Document.blank_of_mem_text {d : Document} (h : ∀ line ∈ d.lines, Text.OneLine line)
    {c : Char} (hc : c ∈ d.text.toList) (hblank : isBlank c = true) : c = ' ' ∨ c = '\n' := by
  rcases Text.mem_toList_intercalate hc with hfeed | ⟨line, hline, hmem⟩
  · exact .inr (List.mem_singleton.1 hfeed)
  · exact .inl (h line hline c hmem hblank)

/-- **No text brings in, parts or takes away a line.**  The document of a plan that has passed the
schema and has elements has the lines that `Plan.lineCount` counts, and its only blanks are the
spaces within its lines and the line feeds between them. -/
theorem lineCount_of_ofJson {kind : Kind} {json : Json} {plan : Plan}
    (h : Plan.ofJson kind json = .ok plan) (hne : 0 < plan.elementCount) :
    (splitLines plan.document.text).length = plan.lineCount ∧
      ∀ c ∈ plan.document.text.toList, isBlank c = true → c = ' ' ∨ c = '\n' := by
  have hnames := Schema.isValid_of_mem_names h
  constructor
  · rw [Document.splitLines_text hnames, Document.length_lines_of_plan hne]
  · intro c hc hblank
    refine Document.blank_of_mem_text (fun line hline => ?_) hc hblank
    exact (Document.line_of_mem_lines hnames line hline).oneLine

/-- Classes with texts that hold line breaks, and texts of which nothing survives. -/
def broken : Json :=
  .object
    [("classes", .array
      [.object [("id", .string "A"),
          ("properties", .array [.string "a\u2028b", .string "\x7b \x7d"]),
          ("methods", .array [.string "\u0085run\x0b"])],
        .object [("id", .string "B"), ("properties", .array [.string "\r\n"]),
          ("methods", .array [])]]),
      ("relationships", .array
        [.object [("from", .string "A"), ("to", .string "B"), ("type", .string "association"),
          ("label", .string "x\r\n\x7d\r\ny")]])]

/-- The typed plan of `broken`. -/
def brokenPlan : ClassDiagram where
  classes := [⟨"A", ["a\u2028b", "\x7b \x7d"], ["\u0085run\x0b"]⟩, ⟨"B", ["\r\n"], []⟩]
  relationships := [⟨"A", "B", .association, some "x\r\n\x7d\r\ny"⟩]

/-- `lineCount_of_ofJson` at work: of `A` two texts survive, and of `B` none. -/
theorem lineCount_of_ofJson_broken :
    (splitLines (Plan.classes brokenPlan).document.text).length = 7 := by
  have haccepted : Plan.ofJson .classes broken = .ok (.classes brokenPlan) := by decide +kernel
  rw [(lineCount_of_ofJson haccepted (by decide)).1]
  decide +kernel

end CodeDiagram
