/-
# The command line

Section 10.4 of `SPEC_FULL.md`.

| command | options |
| --- | --- |
| `generate` | `--kind`, `--input`, `--output`, `--prompt`, `--model`, `--config` |
| `compile` | `--kind`, `--input` |
| `prompt` | `--kind` |

An option stands at most once, and `--kind` must stand.  Its value is the next
argument, which may not look like an option, or follows an equals sign.  A path
is not empty.  Nothing but options stands behind a command; `--` ends them.
`--help`, `-h` and the command `help` ask for the usage instead.
-/

import CodeDiagram.Kind

namespace CodeDiagram
namespace Command

/-- What a command does. -/
inductive Verb where
  | generate
  | compile
  | prompt
  deriving DecidableEq, Repr

/-- An option of a command. -/
inductive Flag where
  | kind
  | input
  | output
  | prompt
  | model
  | config
  deriving DecidableEq, Repr

/-- The name of an option, behind its two hyphens. -/
def Flag.name : Flag → String
  | .kind => "kind"
  | .input => "input"
  | .output => "output"
  | .prompt => "prompt"
  | .model => "model"
  | .config => "config"

namespace Verb

/-- All commands. -/
def all : List Verb := [.generate, .compile, .prompt]

/-- The name of a command. -/
def name : Verb → String
  | .generate => "generate"
  | .compile => "compile"
  | .prompt => "prompt"

/-- The command of a name. -/
def ofName? (s : String) : Option Verb := all.find? fun verb => verb.name == s

/-- The options of a command. -/
def flags : Verb → List Flag
  | .generate => [.kind, .input, .output, .prompt, .model, .config]
  | .compile => [.kind, .input]
  | .prompt => [.kind]

/-- The option of a command that has this name. -/
def flag? (verb : Verb) (name : String) : Option Flag :=
  verb.flags.find? fun flag => flag.name == name

end Verb

/-- Why a command line is refused. -/
inductive Misuse where
  | noCommand
  | unknownCommand (name : String)
  | unexpected (argument : String)
  | missingValue (flag : Flag)
  | repeated (flag : Flag)
  | unknownKind (name : String)
  | missingKind
  deriving DecidableEq, Repr

/-- The wording of a misuse. -/
def Misuse.message : Misuse → String
  | .noCommand => "a command is required"
  | .unknownCommand name => "unrecognized subcommand '" ++ name ++ "'"
  | .unexpected argument => "unexpected argument '" ++ argument ++ "' found"
  | .missingValue flag => "a value is required for '--" ++ flag.name ++ "'"
  | .repeated flag => "the argument '--" ++ flag.name ++ "' cannot be used multiple times"
  | .unknownKind name => Kind.unknownMessage name
  | .missingKind => "the argument '--kind' is required"

/-- Why a command line is no command. -/
inductive Stop where
  | help
  | misuse (m : Misuse)
  deriving DecidableEq, Repr

/-- The options with their values, in the order in which they stand. -/
abbrev Given := List (Flag × String)

/-- The value of an option. -/
def Given.value? (given : Given) (flag : Flag) : Option String := given.lookup flag

/-- Adds the value of an option. -/
def Given.add (given : Given) (flag : Flag) (value : String) : Except Stop Given :=
  if (given.value? flag).isSome then .error (.misuse (.repeated flag))
  else
    match flag with
    | .kind =>
      if (Kind.ofName? value).isSome then .ok (given ++ [(flag, value)])
      else .error (.misuse (.unknownKind value))
    | .model => .ok (given ++ [(flag, value)])
    | _ =>
      if value.isEmpty then .error (.misuse (.missingValue flag))
      else .ok (given ++ [(flag, value)])

/-- Looks like an option. -/
def looksLikeFlag (argument : String) : Bool :=
  argument.toList.head? = some '-' && argument ≠ "-"

/-- The name behind two hyphens, and the value behind an equals sign if there is one. -/
def longFlag? (argument : String) : Option (String × Option String) :=
  match argument.toList with
  | '-' :: '-' :: cs =>
    let name := cs.takeWhile (· != '=')
    some (String.ofList name,
      if name.length = cs.length then none else some (String.ofList (cs.drop (name.length + 1))))
  | _ => none

/-- Asks for the usage. -/
def isHelp (argument : String) : Bool :=
  argument == "--help" || ['-', 'h'].isPrefixOf argument.toList

/-- Reads the arguments behind a command. -/
def readFlags (verb : Verb) (given : Given) : List String → Except Stop Given
  | [] => .ok given
  | argument :: rest =>
    if isHelp argument then .error .help
    else if argument = "--" then
      match rest with
      | [] => .ok given
      | extra :: _ => .error (.misuse (.unexpected extra))
    else
      match (longFlag? argument).bind fun long => (verb.flag? long.1).map fun f => (f, long.2) with
      | none => .error (.misuse (.unexpected argument))
      | some (flag, some value) => do readFlags verb (← given.add flag value) rest
      | some (flag, none) =>
        match rest with
        | [] => .error (.misuse (.missingValue flag))
        | value :: rest =>
          if looksLikeFlag value then .error (.misuse (.missingValue flag))
          else do readFlags verb (← given.add flag value) rest

/-- The command, with the kind of diagram and its other options. -/
structure Line where
  verb : Verb
  kind : Kind
  given : Given
  deriving DecidableEq, Repr

/-- Reads the name of a command and its options. -/
def Line.ofArguments : List String → Except Stop Line
  | [] => .error (.misuse .noCommand)
  | name :: arguments =>
    if isHelp name then .error .help
    else if name = "help" then
      match arguments with
      | [] => .error .help
      | [topic] =>
        if topic = "help" || (Verb.ofName? topic).isSome then .error .help
        else .error (.misuse (.unknownCommand topic))
      | _ :: extra :: _ => .error (.misuse (.unknownCommand extra))
    else
      match Verb.ofName? name with
      | none => .error (.misuse (.unknownCommand name))
      | some verb => do
        let given ← readFlags verb [] arguments
        match (given.value? .kind).bind Kind.ofName? with
        | none => .error (.misuse .missingKind)
        | some kind => return { verb, kind, given }

/-- The usage. -/
def usage : String :=
  "\n".intercalate
    ["Turn source code into Mermaid diagrams", "",
     "Usage: structurify <COMMAND>", "",
     "Commands:",
     "  generate  Ask the model to diagram a code snippet",
     "  compile   Compile an existing JSON plan without calling the model",
     "  prompt    Print the built-in instruction template for a diagram kind",
     "  help      Print this message or the help of the given subcommand(s)", "",
     "Options:",
     "  -h, --help  Print help"]

end Command
end CodeDiagram
