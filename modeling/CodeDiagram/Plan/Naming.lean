/-
# How each kind of diagram names its elements

Section 4.3 of `SPEC_FULL.md`: the fallback names and the reserved words of each
kind.

| kind | stem | may open with a digit |
| --- | --- | --- |
| flowchart | `node` | yes |
| sequence | `participant` | yes |
| class | `class` | yes |
| entity relation | `entity` | no |

The reserved words are those that the grammar of the kind would read as
keywords in the place of a name.
-/

import CodeDiagram.Kind
import CodeDiagram.Identifier.Table

namespace CodeDiagram
namespace Kind

/-- The reserved words of the grammar, in lower case.  For entity relations they include the
words with which a cardinality can be spelled out. -/
def reserved : Kind → List String
  | .flowchart =>
    ["end", "graph", "flowchart", "subgraph", "direction", "style", "linkstyle", "class",
     "classdef", "click", "call", "href", "default"]
  | .sequence =>
    ["end", "participant", "actor", "as", "loop", "alt", "else", "opt", "par", "and", "rect",
     "critical", "break", "box", "note", "over", "activate", "deactivate", "autonumber", "create",
     "destroy", "title", "link", "links"]
  | .classes =>
    ["class", "classdiagram", "namespace", "note", "direction", "style", "classdef", "cssclass",
     "click", "link", "callback"]
  | .entityRelation =>
    ["erdiagram", "direction", "style", "classdef", "class", "one", "many", "to", "only", "zero",
     "more", "optionally"]

/-- How the elements are named. -/
def naming : Kind → Identifier.Naming
  | .flowchart => ⟨"node", reserved .flowchart, false⟩
  | .sequence => ⟨"participant", reserved .sequence, false⟩
  | .classes => ⟨"class", reserved .classes, false⟩
  | .entityRelation => ⟨"entity", reserved .entityRelation, true⟩

end Kind
end CodeDiagram
