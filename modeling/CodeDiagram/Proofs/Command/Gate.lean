/-
# What a request depends on

Sections 4.1 (missing credential), 10.3 and 10.4 of `SPEC_FULL.md`.

Before `generate` makes its request it checks, in this order:

| check | fails if |
| --- | --- |
| settings | the settings file cannot be read or understood, or is named and not there |
| instruction | the file with the instruction cannot be read |
| input | the file with the code, or the input, cannot be read |
| code | the code is blank |
| key | no place of the key holds more than blanks |

Each of them says by itself how it fails (`Host.Fault`), whatever becomes of the
others.  The first one that fails is reported and nothing is sent
(`Host.stops_of_fault`); if none fails, all is prepared (`Host.Prepared`) and
the request is made, unless its address or its key cannot be sent
(`Host.asked_generate`).  No other command makes a request.
-/

import CodeDiagram.Proofs.Chat.Request
import CodeDiagram.Proofs.Command.Requests
import CodeDiagram.Proofs.Command.Traces
import CodeDiagram.Proofs.Settings.Priority

namespace CodeDiagram
namespace Command

open Settings (Chosen IsBlank)

/-- What `generate` checks before it makes a request. -/
inductive Check where
  | settings
  | instruction
  | input
  | code
  | key
  deriving DecidableEq, Repr

namespace Check

/-- The checks, in order. -/
def all : List Check := [.settings, .instruction, .input, .code, .key]

/-- The checks that come first. -/
def earlier (check : Check) : List Check := all.takeWhile (· != check)

theorem length_earlier_lt {check check' : Check} (h : check' ∈ check.earlier) :
    check'.earlier.length < check.earlier.length := by
  revert h
  cases check <;> cases check' <;> decide

end Check

/-- What is said outside the settings file. -/
def Given.overrides (given : Given) (env : Environment) : Settings.Overrides :=
  ⟨env.apiKey, env.model, given.value? .model⟩

section Anywhere

variable {Files α : Type} {host : Host Files} {libs : Libraries} {files : Files}
  {env : Environment} {kind : Kind} {given : Given} {said : Settings.Section}
  {template : Option String} {code key : String} {check : Check} {p : Problem}
  {LegalUrl LegalKey : String → Prop}

namespace Host

/-- How a check fails, whatever becomes of the others. -/
inductive Fault (host : Host Files) (libs : Libraries) (files : Files) (env : Environment)
    (given : Given) : Check → Problem → Prop where
  | settingsAbsent {path : String} : given.value? .config = some path →
      host.isThere files path = false →
      Fault host libs files env given .settings (.plain ["Config file not found: " ++ path])
  | settingsUnread {path : String} {e : FileError} :
      (given.value? .config).getD Task.settingsFile = path → host.isThere files path = true →
      host.read files path = .error e →
      Fault host libs files env given .settings
        (.plain ["Failed to read config: " ++ path, e.message])
  | settingsMalformed {path text : String} {causes : Chat.Causes} :
      (given.value? .config).getD Task.settingsFile = path → host.isThere files path = true →
      host.read files path = .ok text → libs.settings text = .error causes →
      Fault host libs files env given .settings
        (.plain (("Failed to parse config: " ++ path) :: causes))
  | instruction {path : String} {e : FileError} : given.value? .prompt = some path →
      host.read files path = .error e →
      Fault host libs files env given .instruction
        (.plain ["Failed to read prompt template: " ++ path, e.message])
  | inputFile {path : String} {e : FileError} : given.value? .input = some path →
      host.read files path = .error e →
      Fault host libs files env given .input (.plain ["Failed to read input: " ++ path, e.message])
  | input {e : FileError} : given.value? .input = none → host.input = .error e →
      Fault host libs files env given .input (.plain ["Failed to read stdin", e.message])
  | code {code : String} : host.source files (given.value? .input) = .ok code →
      Text.isBlankText code = true →
      Fault host libs files env given .code (.plain ["No code to analyze; the input is empty"])
  /-- The only fault that is reported with a hint. -/
  | key {said : Settings.Section} : host.Configured libs files (given.value? .config) said →
      (∀ place ∈ said.keyPlaces (given.overrides env), IsBlank place) →
      Fault host libs files env given .key
        (.noDiagram (.api "API key not found. Please set it in the configuration."))

/-- All checks are passed: this is said in the settings file, which need not be there unless it is
named, this is the instruction, the code is there and not blank, and so is the key. -/
structure Prepared (host : Host Files) (libs : Libraries) (files : Files) (env : Environment)
    (given : Given) (said : Settings.Section) (template : Option String) (code key : String) :
    Prop where
  settings : host.Configured libs files (given.value? .config) said
  instruction : (given.value? .prompt).mapM (host.read files) = .ok template
  input : host.source files (given.value? .input) = .ok code
  code : Text.isBlankText code = false
  key : Chosen key (said.keyPlaces (given.overrides env))

/-- The request that `generate` makes: all checks are passed, the key and the address of the calls
are legal, and this is what is sent. -/
def Sends (host : Host Files) (libs : Libraries) (LegalUrl LegalKey : String → Prop)
    (files : Files) (env : Environment) (kind : Kind) (given : Given) (post : Chat.Post) : Prop :=
  ∃ said template code key, host.Prepared libs files env given said template code key ∧
    let settings := said.settings (given.overrides env)
    LegalKey key ∧ LegalUrl settings.callUrl ∧
      post = ⟨settings.callUrl, some key,
        (Chat.Call.forPlan kind code ⟨template, settings.jsonMode⟩).body settings⟩

/-! ### Each check by itself -/

theorem configured_iff_of_there {named : Option String}
    (hthere : host.isThere files (named.getD Task.settingsFile) = true) :
    host.Configured libs files named said ↔
      ∃ text, host.read files (named.getD Task.settingsFile) = .ok text ∧
        libs.settings text = .ok said := by
  rw [Configured, if_pos hthere]

theorem configured_iff_of_absent {named : Option String}
    (hthere : host.isThere files (named.getD Task.settingsFile) = false) :
    host.Configured libs files named said ↔ named = none ∧ said = Settings.Section.empty := by
  rw [Configured, if_neg (Bool.eq_false_iff.1 hthere)]

theorem exists_configured (h : ∀ p, ¬ host.Fault libs files env given .settings p) :
    ∃ said, host.Configured libs files (given.value? .config) said := by
  cases hthere : host.isThere files ((given.value? .config).getD Task.settingsFile) with
  | false =>
      cases hnamed : given.value? .config with
      | none =>
          rw [hnamed] at hthere
          exact ⟨.empty, (configured_iff_of_absent hthere).2 ⟨rfl, rfl⟩⟩
      | some path =>
          rw [hnamed] at hthere
          exact absurd (.settingsAbsent hnamed hthere) (h _)
  | true =>
      cases hread : host.read files ((given.value? .config).getD Task.settingsFile) with
      | error e => exact absurd (.settingsUnread rfl hthere hread) (h _)
      | ok text =>
          cases hsaid : libs.settings text with
          | error causes => exact absurd (.settingsMalformed rfl hthere hread hsaid) (h _)
          | ok said => exact ⟨said, (configured_iff_of_there hthere).2 ⟨text, hread, hsaid⟩⟩

theorem exists_template (h : ∀ p, ¬ host.Fault libs files env given .instruction p) :
    ∃ template, (given.value? .prompt).mapM (host.read files) = .ok template := by
  cases hprompt : given.value? .prompt with
  | none => exact ⟨none, rfl⟩
  | some path =>
      cases hread : host.read files path with
      | ok text =>
          refine ⟨some text, ?_⟩
          show (host.read files path >>= fun text => pure (some text)) = _
          rw [hread]
          rfl
      | error e => exact absurd (.instruction hprompt hread) (h _)

theorem exists_source (h : ∀ p, ¬ host.Fault libs files env given .input p) :
    ∃ code, host.source files (given.value? .input) = .ok code := by
  cases hinput : given.value? .input with
  | none =>
      cases hread : host.input with
      | ok code => exact ⟨code, hread⟩
      | error e => exact absurd (.input hinput hread) (h _)
  | some path =>
      cases hread : host.read files path with
      | ok code => exact ⟨code, hread⟩
      | error e => exact absurd (.inputFile hinput hread) (h _)

theorem isBlankText_of_source (h : ∀ p, ¬ host.Fault libs files env given .code p)
    (hcode : host.source files (given.value? .input) = .ok code) :
    Text.isBlankText code = false :=
  Bool.eq_false_iff.2 fun hblank => h _ (.code hcode hblank)

theorem exists_key (h : ∀ p, ¬ host.Fault libs files env given .key p)
    (hsaid : host.Configured libs files (given.value? .config) said) :
    ∃ key, Chosen key (said.keyPlaces (given.overrides env)) := by
  cases hkey : Settings.firstText? (said.keyPlaces (given.overrides env)) with
  | none => exact absurd (.key hsaid (Settings.firstText?_eq_none_iff.1 hkey)) (h _)
  | some key => exact ⟨key, Settings.firstText?_eq_some_iff.1 hkey⟩

/-- The settings file says one thing. -/
theorem Configured.unique {said' : Settings.Section} {named : Option String}
    (h : host.Configured libs files named said) (h' : host.Configured libs files named said') :
    said = said' := by
  cases hthere : host.isThere files (named.getD Task.settingsFile) with
  | false =>
      rw [configured_iff_of_absent hthere] at h h'
      exact h.2.trans h'.2.symm
  | true =>
      obtain ⟨text, hread, hsaid⟩ := (configured_iff_of_there hthere).1 h
      obtain ⟨text', hread', hsaid'⟩ := (configured_iff_of_there hthere).1 h'
      cases hread.symm.trans hread'
      exact Except.ok.inj (hsaid.symm.trans hsaid')

/-- Where all is prepared no check fails. -/
theorem Prepared.not_fault (h : host.Prepared libs files env given said template code key) :
    ¬ host.Fault libs files env given check p := by
  have hsaid := h.settings
  have htemplate := h.instruction
  have hcode := h.input
  intro hfault
  cases hfault with
  | settingsAbsent hnamed hthere =>
      rw [hnamed] at hsaid
      cases ((configured_iff_of_absent hthere).1 hsaid).1
  | settingsUnread hpath hthere hread =>
      subst hpath
      obtain ⟨text, hread', -⟩ := (configured_iff_of_there hthere).1 hsaid
      cases hread.symm.trans hread'
  | settingsMalformed hpath hthere hread hmalformed =>
      subst hpath
      obtain ⟨text, hread', hsettings⟩ := (configured_iff_of_there hthere).1 hsaid
      cases hread.symm.trans hread'
      cases hmalformed.symm.trans hsettings
  | instruction hprompt hread =>
      rw [hprompt] at htemplate
      change (host.read files _ >>= fun text => pure (some text)) = _ at htemplate
      rw [hread] at htemplate
      cases htemplate
  | inputFile hinput hread =>
      rw [hinput, source, hread] at hcode
      cases hcode
  | input hinput hread =>
      rw [hinput, source, hread] at hcode
      cases hcode
  | code hsource hblank =>
      cases hsource.symm.trans hcode
      rw [h.code] at hblank
      cases hblank
  | key hsaid' hblank =>
      cases hsaid'.unique hsaid
      have hnone := Settings.firstText?_eq_none_iff.2 hblank
      rw [Settings.firstText?_eq_some_iff.2 h.key] at hnone
      cases hnone

/-- **All is prepared exactly where no check fails.** -/
theorem exists_prepared_iff : (∃ said template code key,
    host.Prepared libs files env given said template code key) ↔
      ∀ check p, ¬ host.Fault libs files env given check p := by
  constructor
  · rintro ⟨said, template, code, key, h⟩ check p
    exact h.not_fault
  · intro h
    obtain ⟨said, hsaid⟩ := exists_configured (h .settings)
    obtain ⟨template, htemplate⟩ := exists_template (h .instruction)
    obtain ⟨code, hcode⟩ := exists_source (h .input)
    obtain ⟨key, hkey⟩ := exists_key (h .key) hsaid
    exact ⟨said, template, code, key, hsaid, htemplate, hcode,
      isBlankText_of_source (h .code) hcode, hkey⟩

/-! ### The steps before the request -/

/-- A file is read without a request. -/
theorem quiet_readFile (what path : String) :
    host.Quiet (Task.step what (.readFile path .done)) :=
  quiet_step what fun _ => rfl

/-- A settings file is looked for and read without a request. -/
theorem quiet_readSection (libs : Libraries) (named : Option String) :
    host.Quiet (Task.readSection libs named) := by
  refine (quiet_lift fun _ => rfl).bind fun isThere => ?_
  split
  · exact (quiet_readFile _ _).bind fun text => quiet_ofExcept _ _
  · split
    · exact .throw _
    · exact .pure _

/-- An instruction is read without a request. -/
theorem quiet_template (named : Option String) :
    host.Quiet (named.mapM Task.readInstruction) := by
  cases named with
  | none => exact .pure none
  | some path => exact (quiet_readFile _ path).bind fun text => .pure (some text)

/-- Code and plans are read without a request. -/
theorem quiet_readSource (named : Option String) : host.Quiet (Task.readSource named) := by
  cases named with
  | none => exact quiet_step _ fun _ => rfl
  | some path => exact quiet_readFile _ path

/-- A diagram is delivered without a request. -/
theorem quiet_deliver (output result : Option String) :
    host.Quiet (Task.deliver output result) := by
  match output, result with
  | none, result => exact .pure result
  | some path, none => exact .pure none
  | some path, some text =>
      refine (quiet_step _ fun files => ?_).bind fun _ => .pure none
      rw [requests]
      cases host.write files path (text ++ "\n") <;> rfl

/-- What the settings file says is found. -/
theorem finds_readSection (h : host.Configured libs files (given.value? .config) said) :
    host.Finds (Task.readSection libs (given.value? .config)) files said :=
  (quiet_readSection _ _).finds (reads_readSection _) h

/-- An instruction that can be read is found. -/
theorem finds_template (h : (given.value? .prompt).mapM (host.read files) = .ok template) :
    host.Finds ((given.value? .prompt).mapM Task.readInstruction) files template :=
  (quiet_template _).finds (reads_template _) h

/-- Code that can be read is found. -/
theorem finds_readSource (h : host.source files (given.value? .input) = .ok code) :
    host.Finds (Task.readSource (given.value? .input)) files code :=
  (quiet_readSource _).finds (reads_readSource _) h

/-- A step that fails stops with its own cause below what it is for. -/
theorem stops_step (what : String) {q : Program (Except FileError α)} {e : FileError}
    (hrun : host.run q files = (.error e, files)) (hquiet : ∀ files, host.requests q files = []) :
    host.Stops (Task.step what q) files (.plain [what, e.message]) := by
  refine ⟨?_, quiet_step what hquiet files⟩
  rw [attempt_step, hrun]
  rfl

/-- A file that cannot be read stops what reads it. -/
theorem stops_readFile (what : String) {path : String} {e : FileError}
    (h : host.read files path = .error e) :
    host.Stops (Task.step what (.readFile path .done)) files (.plain [what, e.message]) :=
  stops_step what (by rw [run, run, h]) fun _ => rfl

/-- A settings file that fails stops what reads it. -/
theorem stops_readSection (h : host.Fault libs files env given .settings p) :
    host.Stops (Task.readSection libs (given.value? .config)) files p := by
  refine ⟨?_, quiet_readSection _ _ files⟩
  rw [attempt_readSection]
  cases h with
  | settingsAbsent hnamed hthere =>
      rw [hnamed, Option.getD_some, if_neg (Bool.eq_false_iff.1 hthere)]
  | settingsUnread hpath hthere hread =>
      rw [hpath, if_pos hthere]
      exact ((stops_readFile _ hread).bind _).1
  | settingsMalformed hpath hthere hread hmalformed =>
      rw [hpath, if_pos hthere]
      refine (((quiet_readFile _ _).finds (reads_readFile _ _) hread).stops_bind ?_).1
      rw [hmalformed]
      exact ⟨rfl, rfl⟩

/-- An instruction that cannot be read stops what reads it. -/
theorem stops_template (h : host.Fault libs files env given .instruction p) :
    host.Stops ((given.value? .prompt).mapM Task.readInstruction) files p := by
  cases h with
  | instruction hprompt hread =>
      rw [hprompt]
      exact (stops_readFile _ hread).bind fun text => pure (some text)

/-- Code that cannot be read stops what reads it. -/
theorem stops_readSource (h : host.Fault libs files env given .input p) :
    host.Stops (Task.readSource (given.value? .input)) files p := by
  cases h with
  | inputFile hinput hread =>
      rw [hinput]
      exact stops_readFile _ hread
  | input hinput hread =>
      rw [hinput]
      exact stops_step _ (by rw [run, run, hread]) fun _ => rfl

/-- Nothing is asked about blank code. -/
theorem stops_ask_of_blank (client : Chat.Client) (settings : Settings) (kind : Kind)
    (template : Option String) (h : Text.isBlankText code = true) :
    host.Stops (Task.ask client settings kind template code) files
      (.plain ["No code to analyze; the input is empty"]) := by
  rw [Task.ask, if_pos h]
  exact ⟨rfl, rfl⟩

/-- Nothing is asked without a key. -/
theorem stops_ask_of_no_key {client : Chat.Client} {settings : Settings} (kind : Kind)
    (template : Option String) (hcode : Text.isBlankText code = false)
    (hkey : settings.usableKey? = none) :
    host.Stops (Task.ask client settings kind template code) files
      (.noDiagram (.api "API key not found. Please set it in the configuration.")) := by
  rw [Task.ask, if_neg (Bool.eq_false_iff.1 hcode), hkey]
  exact ⟨rfl, rfl⟩

/-- **The first check that fails stops `generate`**, and what the others would say is not asked. -/
theorem stops_of_fault (h : host.Fault libs files env given check p)
    (hfirst : ∀ earlier ∈ check.earlier, ∀ p', ¬ host.Fault libs files env given earlier p') :
    host.Stops (Task.generate libs env kind given) files p := by
  refine Stops.bind ?_ _
  cases check with
  | settings => exact (stops_readSection h).bind _
  | instruction =>
      obtain ⟨said, hsaid⟩ := exists_configured (hfirst .settings (by decide))
      exact (finds_readSection hsaid).stops_bind ((stops_template h).bind _)
  | input =>
      obtain ⟨said, hsaid⟩ := exists_configured (hfirst .settings (by decide))
      obtain ⟨template, htemplate⟩ := exists_template (hfirst .instruction (by decide))
      exact (finds_readSection hsaid).stops_bind
        ((finds_template htemplate).stops_bind ((stops_readSource h).bind _))
  | code =>
      obtain ⟨said, hsaid⟩ := exists_configured (hfirst .settings (by decide))
      obtain ⟨template, htemplate⟩ := exists_template (hfirst .instruction (by decide))
      cases h with
      | code hcode hblank =>
          exact (finds_readSection hsaid).stops_bind ((finds_template htemplate).stops_bind
            ((finds_readSource hcode).stops_bind (stops_ask_of_blank _ _ kind template hblank)))
  | key =>
      obtain ⟨template, htemplate⟩ := exists_template (hfirst .instruction (by decide))
      obtain ⟨code, hcode⟩ := exists_source (hfirst .input (by decide))
      have hblank := isBlankText_of_source (hfirst .code (by decide)) hcode
      cases h with
      | key hsaid hkey =>
          exact (finds_readSection hsaid).stops_bind ((finds_template htemplate).stops_bind
            ((finds_readSource hcode).stops_bind (stops_ask_of_no_key kind template hblank
              (Settings.Section.usableKey?_settings_eq_none_iff.2 hkey))))

/-! ### The request -/

/-- A call with a key is sent just where the key and its address are legal. -/
theorem post_eq_ok_iff {client : Chat.Client} {call : Chat.Call} {settings : Settings}
    {post : Chat.Post} (hlegal : client.SendsLegal LegalUrl LegalKey)
    (hkey : settings.usableKey? = some key) : call.post client settings = .ok post ↔
      LegalKey key ∧ LegalUrl settings.callUrl ∧
        post = ⟨settings.callUrl, some key, call.body settings⟩ := by
  have hrequest : call.request settings = ⟨settings.callUrl, some key, call.body settings⟩ := by
    rw [Chat.Call.request, hkey]
  rw [Chat.Call.post_eq_ok_iff, hlegal, hrequest]
  constructor
  · rintro ⟨rfl, hurl, hlegalKey⟩
    exact ⟨hlegalKey key rfl, hurl, rfl⟩
  · rintro ⟨hlegalKey, hurl, rfl⟩
    exact ⟨rfl, hurl, fun _ h => Option.some.inj h ▸ hlegalKey⟩

/-- A call makes its request, unless the client refuses it. -/
theorem asked_call (client : Chat.Client) (settings : Settings) (call : Chat.Call) :
    host.asked (Task.call client settings call) files =
      (call.post client settings).toOption.toList := by
  rw [Task.call, Chat.Call.answer]
  cases call.post client settings with
  | error causes => rfl
  | ok post => rfl

/-- Asking for a diagram makes the request of its call. -/
theorem asked_ask {client : Chat.Client} {settings : Settings} (kind : Kind)
    (template : Option String) (hcode : Text.isBlankText code = false)
    (hkey : settings.usableKey? = some key) :
    host.asked (Task.ask client settings kind template code) files =
      ((Chat.Call.forPlan kind code
        ⟨template, settings.jsonMode⟩).post client settings).toOption.toList := by
  rw [Task.ask, if_neg (Bool.eq_false_iff.1 hcode), hkey,
    asked_bind_of_quiet _ fun (outcome : Chat.Outcome) => quiet_ofExcept _ outcome.result,
    Chat.requestDiagram, asked_bind_of_quiet _ fun _ => .pure _]
  show host.asked (Chat.requestPlan true false kind code ⟨template, settings.jsonMode⟩
    (Task.call client settings)) files = _
  rw [Chat.requestPlan, if_neg (by decide), if_neg (by decide),
    asked_bind_of_quiet _ fun _ => .pure _, asked_call]

/-- **Where all is prepared the request is made**, if it can be. -/
theorem asked_generate (kind : Kind)
    (h : host.Prepared libs files env given said template code key) :
    let settings := said.settings (given.overrides env)
    host.asked (Task.generate libs env kind given) files =
      ((Chat.Call.forPlan kind code
        ⟨template, settings.jsonMode⟩).post libs.client settings).toOption.toList := by
  intro settings
  have hkey : settings.usableKey? = some key :=
    Settings.Section.usableKey?_settings_eq_some_iff.2 h.key
  rw [Task.generate, asked_bind_of_quiet _ fun _ => quiet_deliver _ _, Task.draw,
    ((finds_readSection h.settings).bind _).2, ((finds_template h.instruction).bind _).2,
    ((finds_readSource h.input).bind _).2]
  exact asked_ask kind template h.code hkey

/-- Of the checks that fail there is a first one. -/
theorem exists_first_fault {check : Check} {p : Problem}
    (h : host.Fault libs files env given check p) :
    ∃ first p, host.Fault libs files env given first p ∧
      ∀ earlier ∈ first.earlier, ∀ p', ¬ host.Fault libs files env given earlier p' := by
  by_cases hfirst : ∀ earlier ∈ check.earlier, ∀ p', ¬ host.Fault libs files env given earlier p'
  · exact ⟨check, p, h, hfirst⟩
  · simp only [Classical.not_forall, Classical.not_not, exists_prop] at hfirst
    obtain ⟨earlier, hearlier, p', hp'⟩ := hfirst
    exact exists_first_fault hp'
termination_by check.earlier.length
decreasing_by exact Check.length_earlier_lt hearlier

/-- `generate` has all prepared or stops before its request. -/
theorem prepared_or_stops (host : Host Files) (libs : Libraries) (files : Files)
    (env : Environment) (kind : Kind) (given : Given) : (∃ said template code key,
      host.Prepared libs files env given said template code key) ∨
        ∃ p, host.Stops (Task.generate libs env kind given) files p := by
  by_cases hprepared : ∃ said template code key,
    host.Prepared libs files env given said template code key
  · exact .inl hprepared
  · rw [exists_prepared_iff] at hprepared
    simp only [Classical.not_forall, Classical.not_not] at hprepared
    obtain ⟨check, p, h⟩ := hprepared
    obtain ⟨first, p', hfault, hfirst⟩ := exists_first_fault h
    exact .inr ⟨p', stops_of_fault hfault hfirst⟩

/-- **`generate` makes just the request that it depends on.** -/
theorem asked_generate_eq_iff (hlegal : libs.client.SendsLegal LegalUrl LegalKey) (kind : Kind)
    {post : Chat.Post} : host.asked (Task.generate libs env kind given) files = [post] ↔
      host.Sends libs LegalUrl LegalKey files env kind given post := by
  constructor
  · intro hasked
    rcases host.prepared_or_stops libs files env kind given with
      ⟨said, template, code, key, h⟩ | ⟨p, -, hquiet⟩
    · have hkey := Settings.Section.usableKey?_settings_eq_some_iff.2 h.key
      refine ⟨said, template, code, key, h, (post_eq_ok_iff hlegal hkey).1 ?_⟩
      rw [asked_generate kind h] at hasked
      cases hpost : (Chat.Call.forPlan kind code ⟨template, _⟩).post libs.client
        (said.settings (given.overrides env)) with
      | error causes =>
          rw [hpost] at hasked
          cases hasked
      | ok sent =>
          rw [hpost] at hasked
          cases hasked
          rfl
    · cases hquiet.symm.trans hasked
  · rintro ⟨said, template, code, key, h, hpost⟩
    have hkey := Settings.Section.usableKey?_settings_eq_some_iff.2 h.key
    rw [asked_generate kind h, (post_eq_ok_iff hlegal hkey).2 hpost]
    rfl

/-- `generate` makes at most one request. -/
theorem length_asked_generate (kind : Kind) :
    (host.asked (Task.generate libs env kind given) files).length ≤ 1 := by
  rcases host.prepared_or_stops libs files env kind given with
    ⟨said, template, code, key, h⟩ | ⟨p, -, hquiet⟩
  · rw [asked_generate kind h]
    exact Option.length_toList_le
  · rw [hquiet]
    exact Nat.zero_le 1

/-- A plan is compiled without a request. -/
theorem quiet_compile (kind : Kind) (given : Given) : host.Quiet (Task.compile kind given) :=
  (quiet_readSource _).bind fun _ => (quiet_ofExcept _ _).bind fun _ => .pure _

/-- A run makes the requests of its command. -/
theorem requests_program {arguments : List String} {line : Line}
    (h : Line.ofArguments arguments = .ok line) :
    host.requests (program libs env arguments) files =
      host.asked (Task.ofLine libs env line) files := by
  rw [program, h]
  show host.requests ((Task.ofLine libs env line).run >>= fun result => pure (Exit.ofResult result))
    files = _
  rw [requests_bind, asked]
  exact List.append_nil _

/-- Only `generate` makes requests. -/
theorem requests_program_of_ne {arguments : List String}
    (h : ∀ kind given, Line.ofArguments arguments ≠ .ok ⟨.generate, kind, given⟩) :
    host.requests (program libs env arguments) files = [] := by
  cases hline : Line.ofArguments arguments with
  | error stop =>
      rw [program, hline]
      rfl
  | ok line =>
      rw [requests_program hline]
      obtain ⟨verb, kind, given⟩ := line
      cases verb with
      | generate => exact absurd hline (h kind given)
      | compile => exact quiet_compile kind given files
      | prompt => rfl

end Host

/-! ### Reports -/

/-- A run that fails with a problem prints nothing.  It reports the chain of causes and, only where
there is no diagram, what can be done. -/
structure Reported (exit : Exit) (p : Problem) : Prop where
  code : exit.code = 1
  output : exit.output = ""
  plain : ∀ causes, p = .plain causes → exit.errors = "error: " ++ p.causes.text ++ "\n"
  noDiagram : ∀ failure, p = .noDiagram failure →
    exit.errors = "error: " ++ p.causes.text ++ "\n" ++ ("hint: " ++ failure.remedy ++ "\n")
  hint : (∃ hint, exit.errors =
      "error: " ++ p.causes.text ++ "\n" ++ ("hint: " ++ hint ++ "\n")) ↔
    ∃ failure, p = .noDiagram failure

theorem reported_ofResult (p : Problem) : Reported (.ofResult (.error p)) p where
  code := rfl
  output := rfl
  plain causes h := by
    subst h
    exact String.append_empty
  noDiagram failure h := by
    subst h
    rfl
  hint := by
    cases p with
    | noDiagram failure => exact iff_of_true ⟨failure.remedy, rfl⟩ ⟨failure, rfl⟩
    | plain causes =>
        refine iff_of_false ?_ nofun
        rintro ⟨hint, h⟩
        have hrest : "" = "hint: " ++ hint ++ "\n" := (String.append_right_inj _).1 h
        have hchars := congrArg String.toList hrest
        rw [String.toList_append] at hchars
        exact absurd (List.append_eq_nil_iff.1 hchars.symm).2 (by decide)

/-- What may be said of a run that ends with this exit after these requests. -/
structure Guarded (host : Host Files) (libs : Libraries) (LegalUrl LegalKey : String → Prop)
    (env : Environment) (arguments : List String) (files : Files) (exit : Exit)
    (requests : List Chat.Post) : Prop where
  length_le_one : requests.length ≤ 1
  /-- Where the client is not redirected and goes on by itself, that is all that is sent. -/
  length_traffic_le_one : (∀ post ∈ requests, host.redirections post = []) →
    (host.traffic requests).length ≤ 1
  /-- Only `generate` makes requests. -/
  eq_nil : (∀ kind given, Line.ofArguments arguments ≠ .ok ⟨.generate, kind, given⟩) →
    requests = []
  /-- The request is made just where all checks are passed and it is legal. -/
  sent : ∀ kind given, Line.ofArguments arguments = .ok ⟨.generate, kind, given⟩ →
    ∀ post, requests = [post] ↔ host.Sends libs LegalUrl LegalKey files env kind given post
  /-- All checks are passed just where none fails. -/
  prepared : ∀ kind given, Line.ofArguments arguments = .ok ⟨.generate, kind, given⟩ →
    ((∃ said template code key, host.Prepared libs files env given said template code key) ↔
      ∀ check p, ¬ host.Fault libs files env given check p)
  /-- Of the checks that fail the first is reported, and nothing is sent. -/
  stopped : ∀ kind given, Line.ofArguments arguments = .ok ⟨.generate, kind, given⟩ →
    ∀ check p, host.Fault libs files env given check p →
      (∀ earlier ∈ check.earlier, ∀ p', ¬ host.Fault libs files env given earlier p') →
        Reported exit p ∧ requests = []
  /-- Whatever a command fails with is reported. -/
  reported : ∀ line, Line.ofArguments arguments = .ok line →
    ∀ p, (host.attempt (Task.ofLine libs env line) files).1 = .error p → Reported exit p

namespace Host

/-- A run makes at most one request. -/
theorem length_requests_program (host : Host Files) (libs : Libraries) (env : Environment)
    (arguments : List String) (files : Files) :
    (host.requests (program libs env arguments) files).length ≤ 1 := by
  by_cases h : ∃ kind given, Line.ofArguments arguments = .ok ⟨.generate, kind, given⟩
  · obtain ⟨kind, given, hline⟩ := h
    rw [requests_program hline]
    exact length_asked_generate kind
  · rw [requests_program_of_ne fun kind given hline => h ⟨kind, given, hline⟩]
    exact Nat.zero_le 1

/-- **Every run is guarded**, wherever it takes place. -/
theorem guarded_run (host : Host Files) (hlegal : libs.client.SendsLegal LegalUrl LegalKey)
    (env : Environment) (arguments : List String) (files : Files) :
    Guarded host libs LegalUrl LegalKey env arguments files
      (host.run (program libs env arguments) files).1
      (host.requests (program libs env arguments) files) where
  length_le_one := host.length_requests_program libs env arguments files
  length_traffic_le_one hstays := by
    rw [traffic_eq_map hstays, List.length_map]
    exact host.length_requests_program libs env arguments files
  eq_nil := requests_program_of_ne
  sent kind given hline post := by
    rw [requests_program hline]
    exact asked_generate_eq_iff hlegal kind
  prepared _ _ _ := exists_prepared_iff
  stopped kind given hline check p h hfirst := by
    have hstops : host.Stops (Task.ofLine libs env ⟨.generate, kind, given⟩) files p :=
      stops_of_fault h hfirst
    rw [run_program hline, requests_program hline, hstops.1]
    exact ⟨reported_ofResult p, hstops.2⟩
  reported line hline p h := by
    rw [run_program hline, h]
    exact reported_ofResult p

end Host
end Anywhere

namespace World

/-- **A request is made once at most, and only where nothing it depends on fails**: in the described
world as on any other host, with every client that sends a request just where its address and its
key are legal.  The described world keeps the request that is made. -/
theorem requests_of_run (libs : Libraries) (LegalUrl LegalKey : String → Prop)
    (hlegal : libs.client.SendsLegal LegalUrl LegalKey) (env : Environment)
    (arguments : List String) :
    (∀ (Files : Type) (host : Host Files) (files : Files),
        Guarded host libs LegalUrl LegalKey env arguments files
          (host.run (program libs env arguments) files).1
          (host.requests (program libs env arguments) files)) ∧
      ∀ w : World, ∃ requests,
        ((program libs env arguments).run w).2.sent = requests ++ w.sent ∧
          Guarded w.host libs LegalUrl LegalKey env arguments w.files
            ((program libs env arguments).run w).1 requests := by
  refine ⟨fun _ host files => host.guarded_run hlegal env arguments files, fun w => ?_⟩
  have hguarded := w.host.guarded_run hlegal env arguments w.files
  refine ⟨w.host.requests (program libs env arguments) w.files, ?_, ?_⟩
  · rw [sent_run]
    -- a list of one request is its own reverse
    match w.host.requests (program libs env arguments) w.files, hguarded.length_le_one with
    | [], _ => rfl
    | [post], _ => rfl
  · rw [(run_eq w (program libs env arguments)).1]
    exact hguarded

/-- A settings file. -/
def settingsText : String := "llm=\x7bapi_key=\"k\"\x7d"

/-- What it says. -/
def settingsSaid : Settings.Section := ⟨none, some "k", none, none, none, none⟩

/-- A world with a settings file and some code. -/
def withSettings : World := ⟨[("c", settingsText), ("f", "f();")], "", fun _ => .failed [], []⟩

/-- Options that name both. -/
def fromCode : Given := [(.kind, "er"), (.config, "c"), (.input, "f")]

/-- Options that name settings, an instruction and code that are not there. -/
def fromNothing : Given := [(.kind, "er"), (.config, "d"), (.prompt, "p"), (.input, "g")]

/-- The command line with these options. -/
def generateLine (given : Given) : List String :=
  "generate" :: given.flatMap fun option => ["--" ++ option.1.name, option.2]

/-- What becomes of it, with the libraries that come along and this key in the environment. -/
def generated (envKey : Option String) (given : Given) : Exit × World :=
  (program .bundled ⟨envKey, none⟩ (generateLine given)).run withSettings

/-- `requests_of_run` at work: where the key in the environment is blank, the one in the file goes
along with the request; where neither the settings nor the instruction nor the code is there, the
settings are reported without a hint, and nothing is sent. -/
theorem requests_of_run_amiss :
    (∃ post, (generated (some " ") fromCode).2.sent = [post] ∧ post.key = some "k") ∧
      (generated none fromNothing).1.errors = "error: Config file not found: d\n" ∧
      (generated none fromNothing).2.sent = [] := by
  have hlegal := Chat.Client.sendsLegal_bundled
  obtain ⟨requests, hsent, hguarded⟩ :=
    (requests_of_run .bundled _ _ hlegal ⟨some " ", none⟩ (generateLine fromCode)).2 withSettings
  obtain ⟨requests', hsent', hguarded'⟩ :=
    (requests_of_run .bundled _ _ hlegal ⟨none, none⟩ (generateLine fromNothing)).2 withSettings
  constructor
  · have hline : Line.ofArguments (generateLine fromCode) =
        .ok ⟨.generate, .entityRelation, fromCode⟩ := rfl
    have hplace : Place.ofPath "c" = .entry "c" := by decide +kernel
    have hthere : withSettings.files.isThere "c" = true := by rw [Files.isThere, hplace]; rfl
    have hread : withSettings.files.read "c" = .ok settingsText := by rw [Files.read, hplace]; rfl
    have htext : Settings.Section.ofText? settingsText = some settingsSaid := by decide +kernel
    have hsettings : Libraries.bundled.settings settingsText = .ok settingsSaid := by
      rw [Libraries.bundled]
      dsimp only
      rw [htext]
    have hplace' : Place.ofPath "f" = .entry "f" := by decide +kernel
    have hcode : withSettings.files.read "f" = .ok "f();" := by rw [Files.read, hplace']; rfl
    have hspace : IsBlank (some " ") := Settings.isBlank_some_iff.2 (by decide +kernel)
    have hprepared : withSettings.host.Prepared .bundled withSettings.files ⟨some " ", none⟩
        fromCode settingsSaid none "f();" "k" :=
      ⟨(Host.configured_iff_of_there hthere).2 ⟨_, hread, hsettings⟩, rfl, hcode, by decide +kernel,
        .later hspace (.here (by decide +kernel))⟩
    have hkey : "k".toList = ['k'] := rfl
    have hcontrol : ∀ c ∈ "k".toList, Chat.isControl c = false := by
      rw [hkey, List.forall_mem_singleton]
      decide
    have hurl : Chat.Address.defect?
        (settingsSaid.settings (fromCode.overrides ⟨some " ", none⟩)).callUrl = none := by
      rw [Chat.Address.defect?, Settings.callUrl, String.toList_append, String.toList_ofList]
      decide +kernel
    have hpost := (hguarded.sent _ _ hline _).2 ⟨_, _, _, _, hprepared, hcontrol, hurl, rfl⟩
    exact ⟨_, hsent.trans (congrArg (· ++ withSettings.sent) hpost), rfl⟩
  · have hline : Line.ofArguments (generateLine fromNothing) =
        .ok ⟨.generate, .entityRelation, fromNothing⟩ := rfl
    have hplace : Place.ofPath "d" = .entry "d" := by decide +kernel
    have hthere : withSettings.files.isThere "d" = false := by rw [Files.isThere, hplace]; rfl
    have hfault : withSettings.host.Fault .bundled withSettings.files ⟨none, none⟩ fromNothing
        .settings (.plain ["Config file not found: " ++ "d"]) := .settingsAbsent rfl hthere
    obtain ⟨hreported, hnone⟩ :=
      hguarded'.stopped _ _ hline _ _ hfault (List.forall_mem_nil _)
    refine ⟨(hreported.plain _ rfl).trans (by decide +kernel), ?_⟩
    rw [generated, hsent', hnone]
    rfl

end World
end Command
end CodeDiagram
