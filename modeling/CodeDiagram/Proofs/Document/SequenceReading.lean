/-
# Reading a sequence back

A sequence shows a participant by its identifier and its description, if that
says something new, and a step by its ends, its kind and its label.  Descriptions
and labels stand at the end of their lines with two marks replaced, which loses
nothing but blanks (`Label.statement_inj`).  So two sequences with participants
have the same document exactly when they show the same
(`text_eq_iff_participants_steps`).

| line | what is read | ends before |
| --- | --- | --- |
| participant | its identifier | the end of the line, or ` as ` |
| step | its source | the arrow |
| step | its arrow | nothing: its second character tells it apart |
| step | its target | the colon |

A participant may be called `participant` or `as`: the lines of the steps begin
where a word is first followed by an arrow (`isStep`).
-/

import CodeDiagram.Proofs.Document.Reading
import CodeDiagram.Proofs.Document.Statement

namespace CodeDiagram
namespace Sequence

open Identifier (isLetter isValid isValid_iff)
open Label
open Text (ends_append flatten)

/-- The description of a participant up to blanks, unless it shows nothing new. -/
def Participant.description? (participant : Participant) : Option String :=
  if statement participant.description = "" ∨ statement participant.description = participant.id
  then none
  else some (flatten participant.description)

/-- What a document shows of a participant. -/
def Participant.shown (participant : Participant) : String × Option String :=
  (participant.id, participant.description?)

/-- What a document shows of a step. -/
def Step.shown (step : Step) : String × String × StepKind × String :=
  (step.source, step.target, step.kind, flatten step.label)

/-! ### Participants -/

/-- What follows the identifier on the line of a participant. -/
def Participant.aside (participant : Participant) : String :=
  if statement participant.description = "" ∨ statement participant.description = participant.id
  then ""
  else " as " ++ statement participant.description

theorem Participant.line_eq (participant : Participant) :
    participant.line = "participant " ++ (participant.id ++ participant.aside) := by
  simp only [line, aside, Bool.or_eq_true, String.isEmpty_iff, beq_iff_eq]
  split_ifs
  · rw [String.append_empty]
  · simp only [String.append_assoc]

/-- What follows the identifier of a participant can be told from a letter. -/
theorem Participant.ends_aside (participant : Participant) :
    Span.Ends isLetter participant.aside.toList := by
  unfold aside
  split_ifs
  · exact fun c hc => nomatch hc
  · exact ends_append (by decide)

/-- **The description of a participant is read back** up to blanks. -/
theorem Participant.aside_eq_aside_iff {participant participant' : Participant} :
    participant.aside = participant'.aside ↔
      participant.description? = participant'.description? := by
  unfold aside description?
  split_ifs
  · exact iff_of_true rfl rfl
  · simp
  · simp
  · rw [String.append_right_inj, statement_inj, Option.some_inj]

/-- **Participants with the same line show the same.** -/
theorem Participant.line_eq_line_iff {participant participant' : Participant}
    (hid : isValid participant.id = true) (hid' : isValid participant'.id = true) :
    participant.line = participant'.line ↔ participant.shown = participant'.shown := by
  rw [Participant.line_eq, Participant.line_eq, String.append_right_inj,
    name_append_inj hid hid' (ends_aside _) (ends_aside _), aside_eq_aside_iff,
    Participant.shown, Participant.shown, Prod.mk.injEq]

/-! ### Steps -/

theorem Step.line_eq (step : Step) :
    step.line = step.source ++ (arrow step.kind ++
      (step.target ++ (": " ++ statement step.label))) := by
  simp only [line, String.append_assoc]

/-- An arrow can be told from a letter. -/
theorem ends_arrow (kind : StepKind) (t : String) :
    Span.Ends isLetter (arrow kind ++ t).toList := by
  cases kind <;> exact ends_append (by decide)

/-- **Two characters of an arrow say which kind the step is of.** -/
theorem arrow_append_inj {kind kind' : StepKind} {t t' : String} :
    arrow kind ++ t = arrow kind' ++ t' ↔ kind = kind' ∧ t = t' := by
  refine code_append_inj (n := 2) (fun kind => ?_) ?_
  · cases kind <;> decide
  · cases kind <;> cases kind' <;> decide

/-- **Steps with the same line show the same.** -/
theorem Step.line_eq_line_iff {step step' : Step}
    (hends : isValid step.source = true ∧ isValid step.target = true)
    (hends' : isValid step'.source = true ∧ isValid step'.target = true) :
    step.line = step'.line ↔ step.shown = step'.shown := by
  rw [Step.line_eq, Step.line_eq,
    name_append_inj hends.1 hends'.1 (ends_arrow _ _) (ends_arrow _ _), arrow_append_inj,
    name_append_inj hends.2 hends'.2 (ends_append (by decide)) (ends_append (by decide)),
    String.append_right_inj, statement_inj, Step.shown, Step.shown, Prod.mk.injEq, Prod.mk.injEq,
    Prod.mk.injEq, and_left_comm (a := step.kind = _)]

/-! ### Documents -/

/-- A hyphen is the first character of the line that is no letter. -/
def isStep (line : String) : Bool := (line.toList.dropWhile isLetter).head? == some '-'

/-- **No line of a participant passes for the line of a step.** -/
theorem isStep_participant (participant : Participant) : isStep participant.line = false := by
  rw [Participant.line_eq, isStep, String.toList_append]
  rfl

/-- **No line of a step passes for the line of a participant.** -/
theorem isStep_step {step : Step} (hsource : isValid step.source = true) :
    isStep step.line = true := by
  rw [Step.line_eq, isStep, String.toList_append,
    Span.dropWhile_append (isValid_iff.1 hsource).2 (ends_arrow _ _), String.toList_append]
  cases step.kind <;> rfl

/-- The texts below the declaration of a sequence with participants. -/
def texts (plan : Sequence) : List String :=
  plan.participants.map Participant.line ++ plan.steps.map Step.line

theorem document_eq {plan : Sequence} (h : plan.participants ≠ []) :
    plan.document = ⟨.sequence, plan.texts.map .line⟩ := by
  rw [document, body_of_participants h, texts, List.map_append, List.map_map, List.map_map]
  rfl

/-- **Sequences have the same document exactly when they show the same.**  Of two plans that have
passed the schema and have participants, the documents have the same text just when the plans have,
in the same order, participants with the same identifiers and descriptions, where a description that
is written as nothing or as the identifier counts as none, and steps with the same ends, kinds and
labels; descriptions and labels are compared up to blanks. -/
theorem text_eq_iff_participants_steps {json json' : Json} {plan plan' : Sequence}
    (h : Plan.ofJson .sequence json = .ok (.sequence plan))
    (h' : Plan.ofJson .sequence json' = .ok (.sequence plan'))
    (hne : plan.participants ≠ []) (hne' : plan'.participants ≠ []) :
    plan.document.text = plan'.document.text ↔
      plan.participants.map Participant.shown = plan'.participants.map Participant.shown ∧
        plan.steps.map Step.shown = plan'.steps.map Step.shown := by
  have hnames := Schema.isValid_of_mem_names h
  have hnames' := Schema.isValid_of_mem_names h'
  obtain ⟨hids, hends⟩ := Schema.forall_names_iff.1 hnames
  obtain ⟨hids', hends'⟩ := Schema.forall_names_iff.1 hnames'
  -- no line holds a line feed, so equal texts have equal lines
  have hlines : plan.document.text = plan'.document.text ↔ plan.texts = plan'.texts := by
    have htext := Document.text_eq_text_iff hnames hnames'
    rwa [Plan.document, Plan.document, document_eq hne, document_eq hne',
      Document.lines_eq_lines_iff, ← document_eq hne, ← document_eq hne'] at htext
  have hparticipants : plan.participants.map Participant.line =
      plan'.participants.map Participant.line ↔
        plan.participants.map Participant.shown = plan'.participants.map Participant.shown :=
    Document.map_eq_map_iff_of_forall fun participant h participant' h' =>
      Participant.line_eq_line_iff (hids participant h) (hids' participant' h')
  have hsteps : plan.steps.map Step.line = plan'.steps.map Step.line ↔
      plan.steps.map Step.shown = plan'.steps.map Step.shown :=
    Document.map_eq_map_iff_of_forall fun step h step' h' =>
      Step.line_eq_line_iff (hends step h) (hends' step' h')
  rw [hlines, texts, texts, Document.map_append_map_eq_iff isStep
    (fun participant _ => isStep_participant participant)
    (fun participant _ => isStep_participant participant)
    (fun step h => isStep_step (hends step h).1) (fun step h => isStep_step (hends' step h).1),
    hparticipants, hsteps]

/-- A participant that sends itself one message. -/
def soliloquy (description label : String) : Json :=
  .object
    [("participants", .array
      [.object [("alias", .string "as"), ("description", .string description)]]),
      ("steps", .array
        [.object [("from", .string "as"), ("to", .string "as"), ("label", .string label),
          ("type", .string "reply")]])]

/-- The typed plan of `soliloquy`. -/
def soliloquyPlan (description label : String) : Sequence where
  participants := [⟨"as", description⟩]
  steps := [⟨"as", "as", label, .reply⟩]

/-- `text_eq_iff_participants_steps` at work: blanks make no difference and neither does a
description that repeats the name, but a mark differs from a text that spells its entity. -/
theorem text_eq_iff_participants_steps_soliloquy :
    (soliloquyPlan " as\n" "to be;\tor").document.text =
        (soliloquyPlan "\u2028" " to be; or ").document.text ∧
      (soliloquyPlan "as" ";\"").document.text ≠
        (soliloquyPlan "as" "#59;#quot;").document.text := by
  have haccepted : ∀ description label,
      Plan.ofJson .sequence (soliloquy description label) =
        .ok (.sequence (soliloquyPlan description label)) := fun _ _ => rfl
  constructor
  · exact (text_eq_iff_participants_steps (haccepted _ _) (haccepted _ _) (by decide)
      (by decide)).2 (by decide +kernel)
  · exact mt (text_eq_iff_participants_steps (haccepted _ _) (haccepted _ _) (by decide)
      (by decide)).1 (by decide +kernel)

end Sequence
end CodeDiagram
