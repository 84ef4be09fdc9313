/-
# The commands

Sections 10.2, 10.3 and 10.4 of `SPEC_FULL.md`: `generate`, `compile` and
`prompt`, the settings file and the reports.

| command | prints |
| --- | --- |
| `generate` | the diagram of some code, unless it is written to a file |
| `compile` | the diagram of a plan |
| `prompt` | the built-in instruction for a kind of diagram |

A command that fails prints nothing: it reports the chain of causes, and what
can be done if there is no diagram.  Of several faults the first counts, in the
order settings, instruction, input, blank input, key, service.

| code | meaning |
| ---: | --- |
| 0 | done |
| 1 | failed |
| 2 | no such command line |
-/

import CodeDiagram.Chat.Bundled
import CodeDiagram.Command.Arguments
import CodeDiagram.Command.Program
import CodeDiagram.Settings.Merge

namespace CodeDiagram
namespace Command

open Chat (Causes)

/-- What a command leaves to others. -/
structure Libraries where
  client : Chat.Client
  /-- The section in the text of a settings file, or why there is none. -/
  settings : String → Except Causes Settings.Section

/-- The libraries that come along. -/
def Libraries.bundled : Libraries where
  client := .bundled
  settings text :=
    match Settings.Section.ofText? text with
    | some said => .ok said
    | none => .error []

/-- What the environment says. -/
structure Environment where
  apiKey : Option String
  model : Option String
  deriving DecidableEq, Repr

/-- Why a command fails. -/
inductive Problem where
  | plain (causes : Causes)
  | noDiagram (failure : Failure)
  deriving DecidableEq, Repr

namespace Problem

/-- The chain of causes.  An invalid plan is caused by its defect. -/
def causes : Problem → Causes
  | .plain causes => causes
  | .noDiagram (.invalidPlan defect) => [(Failure.invalidPlan defect).message, defect.message]
  | .noDiagram failure => [failure.message]

/-- What is said about a problem. -/
def report (p : Problem) : String :=
  "error: " ++ p.causes.text ++ "\n" ++
    match p with
    | .plain _ => ""
    | .noDiagram failure => "hint: " ++ failure.remedy ++ "\n"

end Problem

/-- A program that may fail. -/
abbrev Task := ExceptT Problem Program

namespace Task

/-- The result, or the problem that an error is. -/
def ofExcept {ε α : Type} (problem : ε → Problem) : Except ε α → Task α
  | .ok value => return value
  | .error e => throw (problem e)

/-- A step of a program as a task. -/
def step {α : Type} (what : String) (p : Program (Except FileError α)) : Task α := do
  ofExcept (fun e => .plain [what, e.message]) (← (ExceptT.lift p : Task (Except FileError α)))

/-- Reads the input from a file, or else from the input of the program. -/
def readSource : Option String → Task String
  | some path => step ("Failed to read input: " ++ path) (.readFile path .done)
  | none => step "Failed to read stdin" (.readInput .done)

/-- Reads a file with an instruction. -/
def readInstruction (path : String) : Task String :=
  step ("Failed to read prompt template: " ++ path) (.readFile path .done)

/-- Writes a file. -/
def writeOutput (path text : String) : Task Unit :=
  step ("Failed to write output: " ++ path) (.writeFile path text .done)

/-- The settings file that is looked for unless another is named. -/
def settingsFile : String := "structurify.toml"

/-- Reads the section of a settings file that is there. -/
def readPresent (libs : Libraries) (path : String) : Task Settings.Section := do
  let text ← step ("Failed to read config: " ++ path) (.readFile path .done)
  ofExcept (fun causes => .plain (("Failed to parse config: " ++ path) :: causes))
    (libs.settings text)

/-- Reads the section of the settings file.  Only a file that is named must be there. -/
def readSection (libs : Libraries) (named : Option String) : Task Settings.Section := do
  let path := named.getD settingsFile
  if ← (ExceptT.lift (.isThere path .done) : Task Bool) then readPresent libs path
  else if named.isSome then throw (.plain ["Config file not found: " ++ path])
  else return .empty

/-- Calls the service. -/
def call (client : Chat.Client) (s : Settings) (c : Chat.Call) : Task Chat.Reply := do
  let answer ← c.answer client s fun post =>
    (ExceptT.lift (.exchange post .done) : Task Chat.Exchange)
  return .heard false answer

/-- Asks for the diagram of some code, which must not be blank. -/
def ask (client : Chat.Client) (settings : Settings) (kind : Kind) (template : Option String)
    (code : String) : Task (Option String) := do
  if Text.isBlankText code then throw (.plain ["No code to analyze; the input is empty"])
  else
    let outcome ← Chat.requestDiagram settings.usableKey?.isSome false kind code
      ⟨template, settings.jsonMode⟩ (call client settings)
    ofExcept .noDiagram outcome.result

/-- Reads all that is asked for and asks for the diagram. -/
def draw (libs : Libraries) (env : Environment) (kind : Kind) (given : Given) :
    Task (Option String) := do
  let file ← readSection libs (given.value? .config)
  let template ← (given.value? .prompt).mapM readInstruction
  let code ← readSource (given.value? .input)
  ask libs.client (file.settings ⟨env.apiKey, env.model, given.value? .model⟩) kind template code

/-- Gives a diagram, unless it goes to a file. -/
def deliver : Option String → Option String → Task (Option String)
  | some path, some text => do
    writeOutput path (text ++ "\n")
    return none
  | _, result => return result

/-- Draws a diagram and delivers it. -/
def generate (libs : Libraries) (env : Environment) (kind : Kind) (given : Given) :
    Task (Option String) :=
  draw libs env kind given >>= deliver (given.value? .output)

/-- Makes the diagram of a plan. -/
def compile (kind : Kind) (given : Given) : Task (Option String) := do
  let plan ← readSource (given.value? .input)
  return some (← ofExcept .noDiagram (diagramOfText kind plan))

/-- What a command line does. -/
def ofLine (libs : Libraries) (env : Environment) (line : Line) : Task (Option String) :=
  match line.verb with
  | .generate => generate libs env line.kind line.given
  | .compile => compile line.kind line.given
  | .prompt => return some line.kind.instruction

end Task

/-- How the program ends. -/
structure Exit where
  code : Nat
  output : String
  /-- What is reported.  What is logged beside it is left out. -/
  errors : String
  deriving DecidableEq, Repr

namespace Exit

/-- After a command. -/
def ofResult : Except Problem (Option String) → Exit
  | .ok (some text) => ⟨0, text ++ "\n", ""⟩
  | .ok none => ⟨0, "", ""⟩
  | .error p => ⟨1, "", p.report⟩

/-- Where there is no command. -/
def ofStop : Stop → Exit
  | .help => ⟨0, usage ++ "\n", ""⟩
  | .misuse m => ⟨2, "", "error: " ++ m.message ++ "\n"⟩

end Exit

/-- The program for a command line. -/
def program (libs : Libraries) (env : Environment) (arguments : List String) : Program Exit :=
  match Line.ofArguments arguments with
  | .error stop => pure (.ofStop stop)
  | .ok line => do return .ofResult (← (Task.ofLine libs env line).run)

end Command
end CodeDiagram
