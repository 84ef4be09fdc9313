/-
# From the text of a plan to a diagram

Sections 2 (data flow) and 7 (`DiagramError` and its `remedy`) of
`SPEC_FULL.md`; the whole is `build_diagram` of section 4.1.

A candidate plan is repaired, checked against the schema and written as a
document.  What can fail is reported with a remedy:

| failure | cause |
| --- | --- |
| `api` | the chat service was not reached, or refused |
| `parsing` | its answer is no JSON text |
| `invalidPlan` | the repaired plan does not fit the schema |
-/

import CodeDiagram.Document.Compile
import CodeDiagram.Json.Reader
import CodeDiagram.Plan.Repair
import CodeDiagram.Plan.Schema

namespace CodeDiagram

/-- Why no diagram came about. -/
inductive Failure where
  | api (message : String)
  | parsing (message : String)
  | invalidPlan (defect : Defect)
  deriving DecidableEq, Repr

namespace Failure

/-- The wording of a failure. -/
def message : Failure → String
  | .api message => message
  | .parsing message => message
  | .invalidPlan defect => "The AI response has an invalid structure: " ++ defect.message

/-- What can be done about it. -/
def remedy : Failure → String
  | .api _ => "Open the configuration and check the API key and model settings."
  | .parsing _ => "The AI returned an unreadable response. Please try again."
  | .invalidPlan _ =>
    "The AI produced an unusable plan. Try again or select a smaller block of code."

/-- The text of a plan that is no JSON text. -/
def malformed (e : Json.Error) : Failure :=
  .parsing ("The AI returned malformed JSON (" ++ e.message ++ "). Please try again.")

end Failure

/-- The diagram of a candidate plan. -/
def Json.diagram (kind : Kind) (plan : Json) : Except Defect String :=
  (Plan.ofJson kind (plan.repair kind)).map fun plan => plan.document.text

/-- The diagram of the text of a candidate plan. -/
def diagramOfText (kind : Kind) (text : String) : Except Failure String := do
  let plan ← (Json.read text).mapError Failure.malformed
  (plan.diagram kind).mapError Failure.invalidPlan

end CodeDiagram
