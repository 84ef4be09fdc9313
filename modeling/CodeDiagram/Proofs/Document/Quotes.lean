/-
# Double quotes in a document

Section 8 of `SPEC_FULL.md`: "a quote inside a label never terminates the quoted
token."

A double quote in a document either stands at an end of a quoted text that the
document itself delimits, or comes from a class member: the texts of class
members are the only free texts whose double quotes are not replaced.  So a
document keeps the rule that a line has no double quotes or exactly the two
around one quoted text (`Delimited`) when no class member has a double quote,
and breaks it on the line of each member that has one
(`delimited_iff_unquoted_members`).
-/

import CodeDiagram.Proofs.Document.Lines

namespace CodeDiagram

open Label

/-- The line has no double quotes, or exactly the two around one of the texts. -/
def Delimited (texts : List String) (line : String) : Prop :=
  '"' ∉ line.toList ∨ ∃ before, ∃ text ∈ texts, ∃ after,
    line = before ++ "\"" ++ text ++ "\"" ++ after ∧
      '"' ∉ before.toList ∧ '"' ∉ text.toList ∧ '"' ∉ after.toList

namespace Document

variable {texts members : List String} {line : String}

/-- A line keeps the rule, or has the double quotes of a class member. -/
theorem Line.delimited_or (h : Line texts members line) :
    Delimited texts line ∨ ∃ text ∈ members, '"' ∈ text.toList := by
  cases h with
  | plain h => exact .inl (.inl h.quote_not_mem)
  | quoted before text after htext hline hbefore hplain hafter =>
      refine .inl (.inr ⟨before, text, htext, after, ?_, hbefore.quote_not_mem,
        hplain.quote_not_mem, hafter.quote_not_mem⟩)
      rw [hline, inQuotes]
      simp only [String.append_assoc]
  | member htext hline hcount =>
      by_cases hquote : '"' ∈ line.toList
      · rw [← List.count_pos_iff, hcount, List.count_pos_iff] at hquote
        exact .inr ⟨_, htext, hquote⟩
      · exact .inl (.inl hquote)

/-- A line that delimits no text keeps the rule only without double quotes. -/
theorem delimited_nil : Delimited [] line ↔ '"' ∉ line.toList := by
  constructor
  · rintro (h | ⟨_, _, htext, _⟩)
    · exact h
    · cases htext
  · exact .inl

end Document

/-! ### Members -/

namespace ClassDiagram

/-- A text with a double quote survives the cleaning of a member. -/
theorem exists_member_of_quote {text : String} (h : '"' ∈ text.toList) :
    ∃ member, member? text = some member ∧ member.toList.count '"' = text.toList.count '"' := by
  have hsurvives : survives text = true := List.any_eq_true.2 ⟨'"', h, by decide⟩
  rw [← isSome_member?] at hsurvives
  obtain ⟨member, hmember⟩ := Option.isSome_iff_exists.1 hsurvives
  exact ⟨member, hmember, count_quote_member? hmember⟩

/-- **The double quotes of a member stand on a line of its class body.** -/
theorem exists_mem_members_of_quote {box : ClassBox} {text : String}
    (htext : text ∈ box.properties ++ box.methods) (h : '"' ∈ text.toList) :
    ∃ member ∈ box.members, member.toList.count '"' = text.toList.count '"' := by
  obtain ⟨member, hmember, hcount⟩ := exists_member_of_quote h
  rcases List.mem_append.1 htext with htext | htext
  · exact ⟨member, List.mem_append_left _ (List.mem_filterMap.2 ⟨text, htext, hmember⟩), hcount⟩
  · refine ⟨withCall member, List.mem_append_right _ (List.mem_map_of_mem ?_), ?_⟩
    · exact List.mem_filterMap.2 ⟨text, htext, hmember⟩
    · rw [count_quote_withCall, hcount]

/-- A line of a class body is a line of the document, indented twice. -/
theorem mem_lines_of_mem_members {plan : ClassDiagram} {box : ClassBox} {member : String}
    (hbox : box ∈ plan.classes) (hmember : member ∈ box.members) :
    Document.indent ++ Document.indent ++ member ∈ plan.document.lines := by
  have hitem : box.item = .block ("class " ++ box.id) box.members := by
    rw [ClassBox.item, if_neg]
    exact mt List.isEmpty_iff.1 (List.ne_nil_of_mem hmember)
  refine List.mem_cons_of_mem _ (List.mem_flatMap.2 ⟨box.item, ?_, ?_⟩)
  · rw [document, body_of_classes (List.ne_nil_of_mem hbox)]
    exact List.mem_append_left _ (List.mem_map_of_mem hbox)
  · rw [hitem]
    exact List.mem_append_left _ (List.mem_cons_of_mem _ (List.mem_map_of_mem hmember))

/-- **A double quote of a class member is in the document as it is.** -/
theorem exists_line_of_quote {plan : ClassDiagram} {text : String}
    (htext : text ∈ (Plan.classes plan).memberTexts) (h : '"' ∈ text.toList) :
    ∃ line ∈ plan.document.lines, line.toList.count '"' = text.toList.count '"' ∧
      ¬Delimited (Plan.classes plan).quotedTexts line := by
  obtain ⟨box, hbox, htext⟩ := List.mem_flatMap.1 htext
  obtain ⟨member, hmember, hcount⟩ := exists_mem_members_of_quote htext h
  have hline : (Document.indent ++ Document.indent ++ member).toList.count '"' =
      text.toList.count '"' := by
    rw [String.toList_append, List.count_append, hcount]
    exact Nat.zero_add _
  have hclasses : ¬plan.classes.isEmpty = true := mt List.isEmpty_iff.1 (List.ne_nil_of_mem hbox)
  refine ⟨_, mem_lines_of_mem_members hbox hmember, hline, ?_⟩
  rw [Plan.quotedTexts, if_neg hclasses, Document.delimited_nil, not_not, ← List.count_pos_iff,
    hline]
  exact List.count_pos_iff.2 h

end ClassDiagram

/-! ### Documents -/

/-- **A document delimits its double quotes exactly when no class member has one.**  In the document
of a plan that has passed the schema, a double quote of a node, edge or relationship label, of a
description, or of the name or type of a column is always replaced, and one of a class member never
is. -/
theorem delimited_iff_unquoted_members {kind : Kind} {json : Json} {plan : Plan}
    (h : Plan.ofJson kind json = .ok plan) :
    (∀ line ∈ Text.splitLines plan.document.text, Delimited plan.quotedTexts line) ↔
      ∀ text ∈ plan.memberTexts, '"' ∉ text.toList := by
  have hnames := Schema.isValid_of_mem_names h
  rw [Document.splitLines_text hnames]
  constructor
  · intro hlines text htext hquote
    -- only class diagrams have members, and there no quoted text can account for the quotes
    cases plan with
    | classes plan =>
        obtain ⟨line, hline, -, hbreaks⟩ := ClassDiagram.exists_line_of_quote htext hquote
        exact hbreaks (hlines line hline)
    | _ => cases htext
  · intro hmembers line hline
    have hrule := (Document.line_of_mem_lines hnames line hline).delimited_or
    refine hrule.resolve_right ?_
    rintro ⟨text, htext, hquote⟩
    exact hmembers text htext hquote

/-- A class with one property, and a relationship whose label has double quotes. -/
def greeting (property : String) : Json :=
  .object
    [("classes", .array
      [.object [("id", .string "A"), ("properties", .array [.string property]),
        ("methods", .array [])]]),
      ("relationships", .array
        [.object [("from", .string "A"), ("to", .string "A"), ("type", .string "association"),
          ("label", .string "says \"hi\"")]])]

/-- The typed plan of `greeting`. -/
def greeted (property : String) : Plan :=
  .classes ⟨[⟨"A", [property], []⟩], [⟨"A", "A", .association, some "says \"hi\""⟩]⟩

/-- `delimited_iff_unquoted_members` at work: the quotes of a label do no harm. -/
theorem delimited_iff_unquoted_members_greeting :
    (greeted "+greet").document.lines =
        ["classDiagram", "    class A \x7b", "        +greet", "    \x7d",
          "    A --> A : says &quot;hi&quot;"] ∧
      ∀ line ∈ Text.splitLines (greeted "+greet").document.text,
        Delimited (greeted "+greet").quotedTexts line := by
  have haccepted : Plan.ofJson .classes (greeting "+greet") = .ok (greeted "+greet") := by
    decide +kernel
  exact ⟨by decide +kernel, (delimited_iff_unquoted_members haccepted).2 (by decide)⟩

/-- **A document need not delimit its double quotes:** those of a property stand in it as they
are. -/
theorem not_forall_delimited :
    ¬ ∀ (kind : Kind) (json : Json) (plan : Plan), Plan.ofJson kind json = .ok plan →
      ∀ line ∈ Text.splitLines plan.document.text, Delimited plan.quotedTexts line := by
  intro h
  have hline : Delimited [] "        +greet = \"hi\"" :=
    h .classes (greeting "+greet = \"hi\"") (greeted "+greet = \"hi\"") (by decide +kernel) _
      (by decide +kernel)
  rw [Document.delimited_nil] at hline
  exact absurd hline (by decide)

end CodeDiagram
