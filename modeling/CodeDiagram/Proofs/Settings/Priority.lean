/-
# Which place a setting is taken from

Section 10.3 of `SPEC_FULL.md`.

A text that is given in several places is taken from the first one that is not
blank (`Chosen`).  So nothing depends on what is blank, nor on what stands
behind the place that counts: two lists of places that differ only there are
alike (`Alike`), and alike places give the same settings.

| setting | taken from |
| --- | --- |
| model | command line, environment, file, default |
| key | environment, file |
| temperature, number of tokens, JSON object | file, default |

The settings leave out a blank key twice, where they are merged and where the
key is used.  Both have the same blanks in mind, so the key that is used is the
one that was chosen, as it was written.
-/

import CodeDiagram.Settings.Merge

namespace CodeDiagram
namespace Settings

variable {place place' : Option String} {places places' : List (Option String)} {text : String}

/-- Nothing is given here, or only blanks. -/
def IsBlank (place : Option String) : Prop := ∀ text ∈ place, Text.isBlankText text = true

/-- The text stands at the first place that is not blank. -/
inductive Chosen (text : String) : List (Option String) → Prop where
  | here {places : List (Option String)} : Text.isBlankText text = false →
      Chosen text (some text :: places)
  | later {place : Option String} {places : List (Option String)} : IsBlank place →
      Chosen text places → Chosen text (place :: places)

/-- The places are the same up to the first that is not blank, except for what blank ones hold. -/
inductive Alike : List (Option String) → List (Option String) → Prop where
  | nil : Alike [] []
  | blank {place place' : Option String} {places places' : List (Option String)} :
      IsBlank place → IsBlank place' → Alike places places' →
      Alike (place :: places) (place' :: places')
  /-- What comes behind the place that counts may be anything. -/
  | found {text : String} {places places' : List (Option String)} :
      Text.isBlankText text = false → Alike (some text :: places) (some text :: places')

/-! ### Choosing a text -/

theorem isBlank_none : IsBlank none := nofun

/-- A text is blank in its place as it is by itself. -/
theorem isBlank_some_iff : IsBlank (some text) ↔ Text.isBlankText text = true :=
  ⟨fun h => h text rfl, fun h _ htext => Option.some.inj htext ▸ h⟩

/-- A blank place is passed over. -/
theorem firstText?_cons_of_isBlank (h : IsBlank place) :
    firstText? (place :: places) = firstText? places := by
  cases place with
  | none => rfl
  | some text =>
      have hblank : Text.isBlankText text = true := isBlank_some_iff.1 h
      rw [firstText?, List.findSome?_cons, Option.filter_some, hblank]
      rfl

/-- A place that is not blank counts. -/
theorem firstText?_cons_of_not_blank (h : Text.isBlankText text = false) :
    firstText? (some text :: places) = some text := by
  rw [firstText?, List.findSome?_cons, Option.filter_some, h]
  rfl

/-- A place is blank or holds a text that is not. -/
theorem isBlank_or_exists (place : Option String) :
    IsBlank place ∨ ∃ text, place = some text ∧ Text.isBlankText text = false := by
  cases place with
  | none => exact .inl isBlank_none
  | some text =>
      cases hblank : Text.isBlankText text with
      | true => exact .inl (isBlank_some_iff.2 hblank)
      | false => exact .inr ⟨text, rfl, hblank⟩

/-- **The text that is found is the chosen one.** -/
theorem firstText?_eq_some_iff : firstText? places = some text ↔ Chosen text places := by
  constructor
  · intro h
    induction places with
    | nil => cases h
    | cons place places ih =>
        rcases isBlank_or_exists place with hblank | ⟨text', rfl, htext⟩
        · rw [firstText?_cons_of_isBlank hblank] at h
          exact .later hblank (ih h)
        · rw [firstText?_cons_of_not_blank htext] at h
          cases h
          exact .here htext
  · intro h
    induction h with
    | here htext => exact firstText?_cons_of_not_blank htext
    | later hblank _ ih => rw [firstText?_cons_of_isBlank hblank, ih]

/-- No place counts if all are blank. -/
theorem firstText?_eq_none_iff : firstText? places = none ↔ ∀ place ∈ places, IsBlank place := by
  induction places with
  | nil => exact iff_of_true rfl (List.forall_mem_nil _)
  | cons place places ih =>
      rw [List.forall_mem_cons, ← ih]
      rcases isBlank_or_exists place with hblank | ⟨text, rfl, htext⟩
      · rw [firstText?_cons_of_isBlank hblank, and_iff_right hblank]
      · rw [firstText?_cons_of_not_blank htext, isBlank_some_iff, htext]
        exact iff_of_false nofun fun h => Bool.false_ne_true h.1

/-- **Alike places give the same text.** -/
theorem firstText?_eq_of_alike (h : Alike places places') :
    firstText? places = firstText? places' := by
  induction h with
  | nil => rfl
  | blank hblank hblank' _ ih =>
      rw [firstText?_cons_of_isBlank hblank, firstText?_cons_of_isBlank hblank', ih]
  | found htext => rw [firstText?_cons_of_not_blank htext, firstText?_cons_of_not_blank htext]

theorem Chosen.not_blank (h : Chosen text places) : Text.isBlankText text = false := by
  induction h with
  | here htext => exact htext
  | later _ _ ih => exact ih

/-- A last resort that is not blank is chosen if nothing else is. -/
theorem getD_firstText?_eq_iff {last : String} (hlast : Text.isBlankText last = false) :
    (firstText? places).getD last = text ↔ Chosen text (places ++ [some last]) := by
  rw [← firstText?_eq_some_iff]
  induction places with
  | nil => rw [List.nil_append, firstText?_cons_of_not_blank hlast, Option.some.injEq]; rfl
  | cons place places ih =>
      rcases isBlank_or_exists place with hblank | ⟨text', rfl, htext⟩
      · rw [List.cons_append, firstText?_cons_of_isBlank hblank,
          firstText?_cons_of_isBlank hblank, ih]
      · rw [List.cons_append, firstText?_cons_of_not_blank htext,
          firstText?_cons_of_not_blank htext, Option.some.injEq]
        rfl

/-! ### The settings -/

namespace Section

variable (s : Section) (o : Overrides)

/-- The places of the model, without the default. -/
def modelPlaces : List (Option String) := [o.model, o.envModel, s.model]

/-- The places of the key. -/
def keyPlaces : List (Option String) := [o.envApiKey, s.apiKey]

variable {s o} {key : String}

theorem apiKey_settings : (s.settings o).apiKey = firstText? (s.keyPlaces o) := rfl

/-- The key that is used is the one that was chosen: it is not blank, so it is not left out. -/
theorem usableKey?_settings : (s.settings o).usableKey? = (s.settings o).apiKey := by
  rw [usableKey?]
  cases hkey : (s.settings o).apiKey with
  | none => rfl
  | some key =>
      have hchosen : Chosen key (s.keyPlaces o) := firstText?_eq_some_iff.1 hkey
      rw [Option.filter_some, hchosen.not_blank]
      rfl

/-- The key that is usable is the one that is chosen. -/
theorem usableKey?_settings_eq_some_iff :
    (s.settings o).usableKey? = some key ↔ Chosen key (s.keyPlaces o) := by
  rw [usableKey?_settings, apiKey_settings, firstText?_eq_some_iff]

/-- No key is usable if all places are blank. -/
theorem usableKey?_settings_eq_none_iff :
    (s.settings o).usableKey? = none ↔ ∀ place ∈ s.keyPlaces o, IsBlank place := by
  rw [usableKey?_settings, apiKey_settings, firstText?_eq_none_iff]

end Section

/-- The settings that come out take each setting from the first place that says something. -/
structure Section.Merged (s : Section) (o : Overrides) (settings : Settings) : Prop where
  model : ∀ text, settings.model = text ↔ Chosen text (s.modelPlaces o ++ [some default.model])
  apiKey : ∀ key, settings.apiKey = some key ↔ Chosen key (s.keyPlaces o)
  noKey : settings.apiKey = none ↔ ∀ place ∈ s.keyPlaces o, IsBlank place
  /-- The key that is used is the chosen one, as it was written. -/
  usableKey : ∀ key, settings.usableKey? = some key ↔ Chosen key (s.keyPlaces o)
  /-- There are credentials if a key is given anywhere. -/
  credentials : settings.usableKey?.isSome = true ↔ ∃ place ∈ s.keyPlaces o, ¬ IsBlank place
  temperature : ∀ t, s.temperature = some t → settings.temperature = some t
  noTemperature : s.temperature = none → settings.temperature = default.temperature
  maxTokens : ∀ n, s.maxTokens = some n → settings.maxTokens = some n
  noMaxTokens : s.maxTokens = none → settings.maxTokens = default.maxTokens
  jsonMode : ∀ b, s.jsonMode = some b → settings.jsonMode = b
  noJsonMode : s.jsonMode = none → settings.jsonMode = default.jsonMode

theorem Section.merged_settings (s : Section) (o : Overrides) : s.Merged o (s.settings o) where
  model _ := getD_firstText?_eq_iff (by decide +kernel)
  apiKey _ := firstText?_eq_some_iff
  noKey := firstText?_eq_none_iff
  usableKey _ := usableKey?_settings_eq_some_iff
  credentials := by
    rw [Option.isSome_iff_ne_none, Ne, usableKey?_settings_eq_none_iff]
    simp only [Classical.not_forall, exists_prop]
  temperature t h := by rw [settings, h]; rfl
  noTemperature h := by rw [settings, h]; rfl
  maxTokens n h := by rw [settings, h]; rfl
  noMaxTokens h := by rw [settings, h]; rfl
  jsonMode b h := by rw [settings, h]; rfl
  noJsonMode h := by rw [settings, h]; rfl

/-- Where the places of the model and of the key are alike, the settings are the same. -/
theorem Section.settings_eq_of_alike {s s' : Section} {o o' : Overrides}
    (hrest : s' = { s with model := s'.model, apiKey := s'.apiKey })
    (hmodel : Alike (s.modelPlaces o) (s'.modelPlaces o'))
    (hkey : Alike (s.keyPlaces o) (s'.keyPlaces o')) : s'.settings o' = s.settings o := by
  have hmodel' := firstText?_eq_of_alike hmodel
  have hkey' := firstText?_eq_of_alike hkey
  rw [modelPlaces, modelPlaces] at hmodel'
  rw [keyPlaces, keyPlaces] at hkey'
  rw [settings, settings, hmodel', hkey', hrest]

/-- **The first place that is not blank counts, and no other one does.**  The model comes from the
command line, the environment, the file or the default, the key from the environment or the file,
and the rest from the file or the default.  What a blank place holds, and what stands behind the
place that counts, changes nothing. -/
theorem settings_of_places :
    (∀ (s : Section) (o : Overrides), s.Merged o (s.settings o)) ∧
      ∀ (s s' : Section) (o o' : Overrides),
        s' = { s with model := s'.model, apiKey := s'.apiKey } →
          Alike (s.modelPlaces o) (s'.modelPlaces o') → Alike (s.keyPlaces o) (s'.keyPlaces o') →
            s'.settings o' = s.settings o :=
  ⟨Section.merged_settings, fun _ _ _ _ => Section.settings_eq_of_alike⟩

/-- A file with a model and a key. -/
def written : Section := ⟨none, some " key\t", some "m", none, none, some false⟩

/-- `settings_of_places` at work: a key of blanks in the environment and an empty model do not hide
what the file says, and a model on the command line hides it, whatever it is. -/
theorem settings_of_places_blank :
    (written.settings ⟨some "\u3000", none, some ""⟩).model = "m" ∧
      (written.settings ⟨some "\u3000", none, some ""⟩).usableKey? = some " key\t" ∧
      (written.settings ⟨some "\u3000", none, some ""⟩).temperature = default.temperature ∧
      (written.settings ⟨some "\u3000", none, some ""⟩).jsonMode = false ∧
      { written with model := some "other" }.settings ⟨none, none, some "flag"⟩ =
        written.settings ⟨some "\u3000", some "env", some "flag"⟩ := by
  have hspace : IsBlank (some "\u3000") := isBlank_some_iff.2 (by decide +kernel)
  have hempty : IsBlank (some "") := isBlank_some_iff.2 (by decide +kernel)
  have hmodel : Text.isBlankText "m" = false := by decide +kernel
  have hflag : Text.isBlankText "flag" = false := by decide +kernel
  have hkey : Text.isBlankText " key\t" = false := by decide +kernel
  have hmerged := settings_of_places.1 written ⟨some "\u3000", none, some ""⟩
  refine ⟨(hmerged.model _).2 (.later hempty (.later isBlank_none (.here hmodel))),
    (hmerged.usableKey _).2 (.later hspace (.here hkey)), hmerged.noTemperature rfl,
    hmerged.jsonMode false rfl, ?_⟩
  exact settings_of_places.2 written { written with model := some "other" }
    ⟨some "\u3000", some "env", some "flag"⟩ ⟨none, none, some "flag"⟩ rfl (.found hflag)
    (.blank hspace isBlank_none (.found hkey))

end Settings
end CodeDiagram
