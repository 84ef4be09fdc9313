/-
# Merging settings from several places

Section 10.3 of `SPEC_FULL.md`: what overrides the file.

The model and the key can be given in several places.  The first place with a
text that is not blank counts, so a blank text never hides what is behind it.

| setting | places, the strongest first |
| --- | --- |
| model | command line, environment, file, default |
| key | environment, file |
| anything else | file, default |

The address in a file may be that of the calls: slashes at its end, then each
`/chat/completions` at its end are taken off.
-/

import CodeDiagram.Settings.Section

namespace CodeDiagram
namespace Settings

/-- What is said outside the file. -/
structure Overrides where
  /-- The key in the environment. -/
  envApiKey : Option String
  /-- The model in the environment. -/
  envModel : Option String
  /-- The model on the command line. -/
  model : Option String
  deriving DecidableEq, Repr

/-- The first text that is given and not blank. -/
def firstText? (places : List (Option String)) : Option String :=
  places.findSome? fun place => place.filter fun s => !Text.isBlankText s

/-- The base address that an endpoint stands for, if anything is left of it. -/
def baseOf? (endpoint : String) : Option String :=
  let base := Text.dropTailMarks callPath.toList (withoutSlashes endpoint.toList)
  if base.isEmpty then none else some (String.ofList base)

/-- The settings that come out. -/
def Section.settings (s : Section) (o : Overrides) : Settings :=
  { baseUrl := (s.endpoint.bind baseOf?).getD default.baseUrl
    apiKey := firstText? [o.envApiKey, s.apiKey]
    model := (firstText? [o.model, o.envModel, s.model]).getD default.model
    temperature := s.temperature.or default.temperature
    maxTokens := s.maxTokens.or default.maxTokens
    jsonMode := s.jsonMode.getD default.jsonMode }

end Settings
end CodeDiagram
