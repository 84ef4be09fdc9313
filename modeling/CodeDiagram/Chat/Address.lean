/-
# Addresses of a chat service

Rules by which the client that comes along judges an address; any other client
may have its own.  An address is `http` or `https`, a colon, slashes, a host, a
path, and perhaps a colon and a number behind the host.  Blanks at its ends, tabs
and line feeds do not count, nor does a user name before the host.  A host is
judged by its characters only, so a host of numbers passes whatever they are.

| address | defect |
| --- | --- |
| `api.example/v1` | no scheme |
| `ftp://h` | another scheme |
| `http://` | no host |
| `http://a b` | a character that no host has |
| `http://h:x` | no number up to 65535 behind the colon |
-/

namespace CodeDiagram
namespace Chat
namespace Address

/-- What is wrong with an address. -/
inductive Defect where
  | noScheme
  | otherScheme
  | noHost
  | badHost
  | badNumber
  deriving DecidableEq, Repr

/-- The wording of a defect. -/
def Defect.message : Defect → String
  | .noScheme => "relative URL without a base"
  | .otherScheme => "URL scheme is not allowed"
  | .noHost => "empty host"
  | .badHost => "invalid international domain name"
  | .badNumber => "invalid port number"

/-- The characters that count. -/
def significant (url : List Char) : List Char :=
  let isEdge := fun c : Char => c.toNat ≤ 0x20
  let inner := ((url.dropWhile isEdge).reverse.dropWhile isEdge).reverse
  inner.filter fun c => c != '\t' && c != '\n' && c != '\r'

/-- Can stand in a scheme. -/
def isSchemeChar (c : Char) : Bool := c.isAlphanum || c == '+' || c == '-' || c == '.'

/-- The scheme in lower case, and what stands behind its colon. -/
def scheme? (url : List Char) : Option (String × List Char) :=
  let scheme := url.takeWhile isSchemeChar
  match scheme, url.drop scheme.length with
  | c :: _, ':' :: rest =>
    if c.isAlpha then some (String.ofList (scheme.map Char.toLower), rest) else none
  | _, _ => none

/-- Parts an address; a backslash does as well. -/
def isSlash (c : Char) : Bool := c == '/' || c == '\\'

/-- The host with its number, and with a user name before it if there is one. -/
def authority (rest : List Char) : List Char :=
  (rest.dropWhile isSlash).takeWhile fun c => !(isSlash c || c == '?' || c == '#')

/-- What stands behind the last `@`, or all if there is none. -/
def withoutUser (cs : List Char) : List Char := (cs.reverse.takeWhile (· != '@')).reverse

/-- Can stand in a host. -/
def isHostChar (c : Char) : Bool :=
  0x20 < c.toNat && c.toNat != 0x7F && !("\"#/:<>?@[\\]^`|".toList.contains c)

/-- Is empty or a number up to 65535. -/
def isHostNumber (cs : List Char) : Bool :=
  cs.all Char.isDigit && decide (cs.foldl (fun n c => 10 * n + (c.toNat - '0'.toNat)) 0 < 65536)

/-- The defect of a host with its number. -/
def hostDefect? (cs : List Char) : Option Defect :=
  match cs with
  | '[' :: inner =>
    match inner.dropWhile (· != ']') with
    | [']'] => none
    | ']' :: ':' :: number => if isHostNumber number then none else some .badNumber
    | _ => some .badHost
  | _ =>
    let host := cs.takeWhile (· != ':')
    let number := (cs.drop host.length).drop 1
    if host.isEmpty then some .noHost
    else if !isHostNumber number then some .badNumber
    else if host.all isHostChar then none else some .badHost

/-- The defect of an address, if it has one. -/
def defect? (url : String) : Option Defect :=
  match scheme? (significant url.toList) with
  | none => some .noScheme
  | some (scheme, rest) =>
    if scheme = "http" || scheme = "https" then hostDefect? (withoutUser (authority rest))
    else some .otherScheme

end Address
end Chat
end CodeDiagram
