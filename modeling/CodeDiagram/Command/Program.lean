/-
# What a command asks of its surroundings

A command asks whether a file is there, reads files and its input, exchanges
requests with the chat service and writes files.  A program is a tree of such
steps; what comes back from a step chooses the way on.  It decides everything
and does nothing, so it can be run on a described world as well as on a real one.
-/

import CodeDiagram.Chat.Service

namespace CodeDiagram
namespace Command

/-- Why a file cannot be read or written. -/
inductive FileError where
  | notFound
  | notDirectory
  | isDirectory
  | other (message : String)
  deriving DecidableEq, Repr

namespace FileError

/-- The wording of a file error. -/
def message : FileError → String
  | .notFound => "No such file or directory (os error 2)"
  | .notDirectory => "Not a directory (os error 20)"
  | .isDirectory => "Is a directory (os error 21)"
  | .other message => message

end FileError

/-- A tree of steps that ends in results. -/
inductive Program (α : Type) where
  | done (result : α)
  /-- Asks whether anything can be found at a path. -/
  | isThere (path : String) (next : Bool → Program α)
  | readFile (path : String) (next : Except FileError String → Program α)
  | readInput (next : Except FileError String → Program α)
  | exchange (post : Chat.Post) (next : Chat.Exchange → Program α)
  | writeFile (path text : String) (next : Except FileError Unit → Program α)

namespace Program

/-- Goes on with the result. -/
def bind {α β : Type} (next : α → Program β) : Program α → Program β
  | .done result => next result
  | .isThere path k => .isThere path fun r => (k r).bind next
  | .readFile path k => .readFile path fun r => (k r).bind next
  | .readInput k => .readInput fun r => (k r).bind next
  | .exchange post k => .exchange post fun r => (k r).bind next
  | .writeFile path text k => .writeFile path text fun r => (k r).bind next

instance : Monad Program where
  pure := .done
  bind p next := p.bind next

end Program
end Command
end CodeDiagram
