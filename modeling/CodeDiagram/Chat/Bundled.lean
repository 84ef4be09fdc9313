/-
# The client that comes along

A client to run with where no other is at hand.  It refuses a request whose
address has a defect (`Address.defect?`) or whose key holds a control character,
and it decodes a body by `Answer.ofText?`.  What is said of calls in general is
said of every client.
-/

import CodeDiagram.Chat.Address
import CodeDiagram.Chat.Service

namespace CodeDiagram
namespace Chat

/-- Is a control character other than the tab, which no header holds. -/
def isControl (c : Char) : Bool := (c.toNat < 0x20 && c != '\t') || c.toNat == 0x7F

namespace Client

/-- The client that comes along. -/
def bundled : Client where
  refusal? post :=
    match Address.defect? post.url with
    | some defect => some ["builder error", defect.message]
    | none =>
      if post.key.any fun key => key.toList.any isControl then
        some ["builder error", "failed to parse header value"]
      else none
  decode body :=
    match Answer.ofText? body with
    | some answer => .ok answer
    | none => .error ["error decoding response body"]

end Client
end Chat
end CodeDiagram
