/-
# The executable

Section 10.4 of `SPEC_FULL.md`, the `structurify` command.

Runs the program of its command line.  The key and the model are also taken
from the environment.  No way leads to a chat service from here, so `generate`
reports that it cannot be reached.
-/

import CodeDiagram.Command.Run

namespace CodeDiagram
namespace Command

/-- The cause of a failed access. -/
def FileError.ofError : IO.Error → FileError
  | .noFileOrDirectory .. => .notFound
  | e => .other (toString e)

/-- Does what may fail. -/
def attempt {α : Type} (act : IO α) : IO (Except FileError α) := do
  try return .ok (← act) catch e => return .error (.ofError e)

/-- Runs a program. -/
def Program.perform {α : Type} : Program α → IO α
  | .done result => return result
  | .isThere path next => do
    let r ← attempt (IO.FS.realPath path)
    (next r.toBool).perform
  | .readFile path next => do
    let r ← attempt (IO.FS.readFile path)
    (next r).perform
  | .readInput next => do
    let r ← attempt (do (← IO.getStdin).readToEnd)
    (next r).perform
  | .exchange _ next => (next (.failed ["no connection"])).perform
  | .writeFile path text next => do
    let r ← attempt (IO.FS.writeFile path text)
    (next r).perform

/-- The variables that hold the key and the model. -/
def readEnvironment : IO Environment :=
  return ⟨← IO.getEnv "STRUCTURIFY_API_KEY", ← IO.getEnv "STRUCTURIFY_MODEL"⟩

end Command
end CodeDiagram

def main (arguments : List String) : IO UInt32 := do
  let env ← CodeDiagram.Command.readEnvironment
  let result ← (CodeDiagram.Command.program .bundled env arguments).perform
  IO.print result.output
  IO.eprint result.errors
  return UInt32.ofNat result.code
