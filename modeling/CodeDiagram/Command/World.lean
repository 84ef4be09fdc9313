/-
# A world with one directory

The files of a world lie in one directory, in which the program runs.  A path
leads to the directory, to a name in it, below a name or out of it:

| path | place |
| --- | --- |
| `.`, `./`, `..` | a directory |
| `a`, `./a` | the name `a` |
| `a/` | the name `a`, which should be a directory |
| `a/b` | below the name `a` |
| the empty path, `/a`, `../a` | outside |

Nothing is found outside.  A world also has an input, a chat service, and the
list of requests that the service got.
-/

import CodeDiagram.Command.Program

namespace CodeDiagram
namespace Command

/-- Where a path leads. -/
inductive Place where
  | directory
  | entry (name : String)
  | slashed (name : String)
  | below (name : String)
  | outside
  deriving DecidableEq, Repr

namespace Place

/-- The parts of a path between slashes. -/
def parts : List Char → List (List Char)
  | [] => [[]]
  | c :: cs => if c = '/' then [] :: parts cs else (parts cs).modifyHead (c :: ·)

/-- Stays in the same directory. -/
def isStay (part : List Char) : Bool := part.isEmpty || part == ['.']

/-- Where a path leads. -/
def ofPath (path : String) : Place :=
  if path.isEmpty || path.toList.head? = some '/' then .outside
  else
    match (parts path.toList).dropWhile isStay with
    | [] => .directory
    | name :: rest =>
      if name = ['.', '.'] then if rest.all isStay then .directory else .outside
      else if rest.isEmpty then .entry (String.ofList name)
      else if rest.all List.isEmpty then .slashed (String.ofList name)
      else .below (String.ofList name)

end Place

/-- The files by name. -/
abbrev Files := List (String × String)

namespace Files

/-- The error at a place that needs the name to be a directory. -/
def needsDirectory (files : Files) (name : String) : FileError :=
  if (files.lookup name).isSome then .notDirectory else .notFound

/-- Is there anything at a path. -/
def isThere (files : Files) (path : String) : Bool :=
  match Place.ofPath path with
  | .directory => true
  | .entry name => (files.lookup name).isSome
  | _ => false

/-- Reads a file. -/
def read (files : Files) (path : String) : Except FileError String :=
  match Place.ofPath path with
  | .directory => .error .isDirectory
  | .entry name =>
    match files.lookup name with
    | some text => .ok text
    | none => .error .notFound
  | .slashed name => .error (files.needsDirectory name)
  | .below name => .error (files.needsDirectory name)
  | .outside => .error .notFound

/-- Gives a name a text. -/
def put (name text : String) : Files → Files
  | [] => [(name, text)]
  | (key, old) :: rest =>
    if key = name then (key, text) :: rest else (key, old) :: put name text rest

/-- Writes a file, as a whole or not at all. -/
def write (files : Files) (path text : String) : Except FileError Files :=
  match Place.ofPath path with
  | .directory => .error .isDirectory
  | .entry name => .ok (files.put name text)
  | .slashed _ => .error .isDirectory
  | .below name => .error (files.needsDirectory name)
  | .outside => .error .notFound

end Files

/-- The surroundings of a program. -/
structure World where
  files : Files
  input : String
  /-- How the service treats a request. -/
  service : Chat.Post → Chat.Exchange
  /-- The requests that the service got, the latest first. -/
  sent : List Chat.Post

/-- Runs a program in a world. -/
def Program.run {α : Type} (w : World) : Program α → α × World
  | .done result => (result, w)
  | .isThere path next => (next (w.files.isThere path)).run w
  | .readFile path next => (next (w.files.read path)).run w
  | .readInput next => (next (.ok w.input)).run w
  | .exchange post next => (next (w.service post)).run { w with sent := post :: w.sent }
  | .writeFile path text next =>
    match w.files.write path text with
    | .ok files => (next (.ok ())).run { w with files }
    | .error e => (next (.error e)).run w

end Command
end CodeDiagram
