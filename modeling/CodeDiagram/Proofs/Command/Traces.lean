/-
# What a run leaves behind

A run of the program leaves what it printed and the files as they are then.  Up
to its last step `generate` only reads and asks, so that whatever fails on the
way has changed nothing (`Host.reads_draw`); the last step prints the diagram or
writes it (`Host.Delivered`).  The other commands write no file.

| command | is successful if | leaves |
| --- | --- | --- |
| `generate` | a diagram is drawn (`Host.Drawn`) and delivered | it in a file, or in print |
| `compile` | the plan can be read and has a diagram | it in print |
| any | | nothing, unless it is successful |

All this holds of any host (`Host.tidy_run`), the described world among them.
-/

import CodeDiagram.Proofs.Chat.Outcome
import CodeDiagram.Proofs.Command.Host

namespace CodeDiagram
namespace Command

section Anywhere

variable {Files α : Type} {host : Host Files} {libs : Libraries} {client : Chat.Client}
  {files after : Files} {env : Environment} {kind : Kind} {given : Given} {settings : Settings}
  {text : String}

/-! ### What a command works with -/

namespace Host

/-- The text of a file, or else of the input. -/
def source (host : Host Files) (files : Files) : Option String → Except FileError String
  | some path => host.read files path
  | none => host.input

/-- The settings file says this, which is nothing if there is no such file.  A file that is named
has to be there. -/
def Configured (host : Host Files) (libs : Libraries) (files : Files) (named : Option String)
    (said : Settings.Section) : Prop :=
  let path := named.getD Task.settingsFile
  if host.isThere files path then
    ∃ text, host.read files path = .ok text ∧ libs.settings text = .ok said
  else named = none ∧ said = .empty

/-- What the service answers to a call. -/
def answer (host : Host Files) (client : Chat.Client) (settings : Settings) (call : Chat.Call) :
    Except Chat.Causes Chat.Answer :=
  call.answer (m := Id) client settings host.service

/-- The diagram that `generate` is asked for: all that it is made of can be read, the code is not
blank, and the request comes to this diagram. -/
def Drawn (host : Host Files) (libs : Libraries) (files : Files) (env : Environment) (kind : Kind)
    (given : Given) (text : String) : Prop :=
  ∃ said template code, host.Configured libs files (given.value? .config) said ∧
    (given.value? .prompt).mapM (host.read files) = .ok template ∧
    host.source files (given.value? .input) = .ok code ∧ Text.isBlankText code = false ∧
    let settings := said.settings ⟨env.apiKey, env.model, given.value? .model⟩
    Chat.diagramResult settings.usableKey?.isSome false kind code ⟨template, settings.jsonMode⟩
      (fun call => .heard false (host.answer libs.client settings call)) = .ok (some text)

/-- A diagram is delivered: it is printed and no file changes, or it becomes the text of the file
that is named and nothing is printed. -/
def Delivered (host : Host Files) (files : Files) (text : String) :
    Option String → String → Files → Prop
  | none, print, after => print = text ++ "\n" ∧ after = files
  | some path, print, after => print = "" ∧ host.write files path (text ++ "\n") = .ok after

/-! ### The steps of a command -/

/-- What can fail gives its result. -/
theorem reads_ofExcept {ε : Type} (problem : ε → Problem) (x : Except ε α) :
    host.Reads (Task.ofExcept problem x) fun _ a => x = .ok a := by
  cases x with
  | error e => exact (Reads.throw _).congr fun _ _ => iff_of_false id nofun
  | ok value => exact (Reads.pure value).congr fun _ _ => ⟨congrArg _, Except.ok.inj⟩

/-- A step that fails says what it was for, and then why it failed. -/
theorem attempt_step (what : String) (p : Program (Except FileError α)) :
    host.attempt (Task.step what p) files =
      ((host.run p files).1.mapError fun e => .plain [what, e.message], (host.run p files).2) := by
  rw [Task.step, attempt_bind_of_ok (attempt_lift p)]
  cases (host.run p files).1 <;> rfl

theorem reads_lift {p : Program α} {given : Files → α}
    (h : ∀ files, host.run p files = (given files, files)) :
    host.Reads (ExceptT.lift p) fun files a => given files = a := by
  refine .of_attempt_eq (fun files => .ok (given files)) (fun files => ?_) fun _ _ =>
    ⟨Except.ok.inj, congrArg _⟩
  rw [attempt_lift, h]

/-- A step that changes no file reads what its program gives. -/
theorem reads_step (what : String) {p : Program (Except FileError α)}
    {given : Files → Except FileError α} (h : ∀ files, host.run p files = (given files, files)) :
    host.Reads (Task.step what p) fun files a => given files = .ok a :=
  ((reads_lift h).bind fun result => reads_ofExcept _ result).congr fun _ _ => exists_eq_left'

/-- A file that can be read gives its text. -/
theorem reads_readFile (what path : String) :
    host.Reads (Task.step what (.readFile path .done)) fun files text =>
      host.read files path = .ok text :=
  reads_step what fun _ => rfl

/-- The source is read from its file or from the input. -/
theorem reads_readSource (named : Option String) :
    host.Reads (Task.readSource named) fun files text => host.source files named = .ok text := by
  cases named with
  | none => exact reads_step _ fun _ => rfl
  | some path => exact reads_readFile _ path

/-- An instruction is read if there is one to read. -/
theorem reads_template (named : Option String) :
    host.Reads (named.mapM Task.readInstruction) fun files template =>
      named.mapM (host.read files) = .ok template := by
  cases named with
  | none => exact (Reads.pure none).congr fun _ _ => ⟨congrArg Except.ok, Except.ok.inj⟩
  | some path =>
    refine ((reads_readFile _ path).bind fun text => .pure (some text)).congr
      fun files template => ?_
    show _ ↔ (host.read files path >>= fun text => pure (some text)) = .ok template
    cases host.read files path <;> simp [bind, Except.bind, pure, Except.pure]

/-- A settings file that is there is read and understood. -/
theorem reads_readPresent (path : String) :
    host.Reads (Task.readPresent libs path) fun files said =>
      ∃ text, host.read files path = .ok text ∧ libs.settings text = .ok said :=
  (reads_readFile _ path).bind fun text => reads_ofExcept _ (libs.settings text)

/-- What is not there need not be read, unless it is named. -/
theorem attempt_readSection (libs : Libraries) (named : Option String) (files : Files) :
    host.attempt (Task.readSection libs named) files =
      if host.isThere files (named.getD Task.settingsFile) then
        host.attempt (Task.readPresent libs (named.getD Task.settingsFile)) files
      else
        match named with
        | some path => (.error (.plain ["Config file not found: " ++ path]), files)
        | none => (.ok .empty, files) := by
  have hasked : host.attempt (ExceptT.lift (.isThere (named.getD Task.settingsFile) .done)) files =
      (.ok (host.isThere files (named.getD Task.settingsFile)), files) := rfl
  rw [Task.readSection, attempt_bind_of_ok hasked]
  split
  · rfl
  · cases named <;> rfl

/-- What the settings file says is read, or nothing where it need not be there. -/
theorem reads_readSection (named : Option String) :
    host.Reads (Task.readSection libs named) fun files said =>
      host.Configured libs files named said := by
  intro files
  simp only [attempt_readSection, Configured]
  split
  · exact reads_readPresent _ files
  · cases named with
    | none => simp [eq_comm]
    | some path => simp

/-- A call is answered as the service answers it, and changes no file. -/
theorem attempt_call (call : Chat.Call) :
    host.attempt (Task.call client settings call) files =
      (.ok (.heard false (host.answer client settings call)), files) := by
  rw [Task.call, answer, Chat.Call.answer, Chat.Call.answer]
  cases call.post client settings with
  | error causes => rfl
  | ok post => rfl

/-- A request ends as if what the service answers were known beforehand. -/
theorem attempt_requestPlan (credentials cancelled : Bool) (kind : Kind) (code : String)
    (options : Chat.Options) :
    host.attempt (Chat.requestPlan credentials cancelled kind code options
        (Task.call client settings)) files =
      (.ok (Chat.requestPlan (m := Id) credentials cancelled kind code options fun call =>
        .heard false (host.answer client settings call)), files) := by
  rw [Chat.requestPlan, Chat.requestPlan]
  split
  · rfl
  · split
    · rfl
    · rw [attempt_bind_of_ok (attempt_call _)]
      rfl

/-- A request for a diagram reads what the service makes of it. -/
theorem reads_requestDiagram (credentials cancelled : Bool) (kind : Kind) (code : String)
    (options : Chat.Options) :
    host.Reads
      (Chat.requestDiagram credentials cancelled kind code options (Task.call client settings) >>=
        fun outcome => Task.ofExcept .noDiagram outcome.result)
      fun _ result => Chat.diagramResult credentials cancelled kind code options
        (fun call => .heard false (host.answer client settings call)) = .ok result := by
  have hrequest : host.Reads
      (Chat.requestDiagram credentials cancelled kind code options (Task.call client settings))
      fun _ outcome => Chat.requestDiagram (m := Id) credentials cancelled kind code options
        (fun call => .heard false (host.answer client settings call)) = outcome := by
    refine .of_attempt_eq _ (fun files => ?_) fun _ _ => ⟨Except.ok.inj, congrArg _⟩
    rw [Chat.requestDiagram, attempt_bind_of_ok (attempt_requestPlan ..)]
    rfl
  exact (hrequest.bind fun outcome => reads_ofExcept _ outcome.result).congr
    fun _ _ => exists_eq_left'

/-! ### Drawing and delivering -/

/-- A request that is answered does not end as if it were cancelled. -/
theorem diagramResult_heard_ne_none {credentials : Bool} {code : String} {options : Chat.Options}
    {said : Chat.Call → Except Chat.Causes Chat.Answer} :
    Chat.diagramResult credentials false kind code options (fun call => .heard false (said call)) ≠
      .ok none := by
  rw [Ne, Chat.diagramResult_eq_none_iff, Chat.planResult_eq_none_iff]
  rintro ⟨-, hcancelled | hwaiting⟩
  · cases hcancelled
  · cases hwaiting

/-- Where the code is not blank the service is asked, and what it gives is read. -/
theorem reads_ask (client : Chat.Client) (settings : Settings) (kind : Kind)
    (template : Option String) (code : String) :
    host.Reads (Task.ask client settings kind template code) fun _ result =>
      Text.isBlankText code = false ∧
        Chat.diagramResult settings.usableKey?.isSome false kind code
          ⟨template, settings.jsonMode⟩
          (fun call => .heard false (host.answer client settings call)) = .ok result := by
  rw [Task.ask]
  cases Text.isBlankText code with
  | true => exact (Reads.throw _).congr fun _ _ => iff_of_false id nofun
  | false => exact (reads_requestDiagram _ _ _ _ _).congr fun _ _ => (and_iff_right rfl).symm

/-- **Before it delivers a diagram, `generate` only reads.** -/
theorem reads_draw (libs : Libraries) (env : Environment) (kind : Kind) (given : Given) :
    host.Reads (Task.draw libs env kind given) fun files result =>
      ∃ text, result = some text ∧ host.Drawn libs files env kind given text := by
  refine ((reads_readSection _).bind fun file => (reads_template _).bind fun template =>
    (reads_readSource _).bind fun code => reads_ask _ _ _ _ _).congr fun files result => ?_
  constructor
  · rintro ⟨file, hfile, template, htemplate, code, hcode, hblank, hresult⟩
    cases result with
    | none => exact absurd hresult diagramResult_heard_ne_none -- nobody cancels the request
    | some text => exact ⟨text, rfl, file, template, code, hfile, htemplate, hcode, hblank, hresult⟩
  · rintro ⟨text, rfl, file, template, code, hfile, htemplate, hcode, hblank, hresult⟩
    exact ⟨file, hfile, template, htemplate, code, hcode, hblank, hresult⟩

/-- `compile` reads a plan and gives its diagram. -/
theorem reads_compile (kind : Kind) (given : Given) :
    host.Reads (Task.compile kind given) fun files result =>
      ∃ text, result = some text ∧ ∃ plan, host.source files (given.value? .input) = .ok plan ∧
        diagramOfText kind plan = .ok text := by
  refine ((reads_readSource _).bind fun _ => (reads_ofExcept _ _).bind fun _ => .pure _).congr
    fun files result => ?_
  constructor
  · rintro ⟨plan, hplan, text, htext, rfl⟩
    exact ⟨text, rfl, plan, hplan, htext⟩
  · rintro ⟨text, rfl, plan, hplan, htext⟩
    exact ⟨plan, hplan, text, htext, rfl⟩

/-- A file is written in the end, or nothing is done. -/
theorem attempt_deliver (path text : String) :
    host.attempt (Task.deliver (some path) (some text)) files =
      match host.write files path (text ++ "\n") with
      | .ok after => (.ok none, after)
      | .error e => (.error (.plain ["Failed to write output: " ++ path, e.message]), files) := by
  rw [Task.deliver, Task.writeOutput, attempt_bind, attempt_step, run]
  cases host.write files path (text ++ "\n") <;> rfl

/-- A diagram that cannot be delivered leaves the files as they are. -/
theorem careful_deliver (output result : Option String) :
    host.Careful (Task.deliver output result) := by
  match output, result with
  | none, result => exact (Reads.pure result).careful
  | some path, none => exact (Reads.pure none).careful
  | some path, some text =>
      -- the only step that writes: it fails without a trace because writing does
      intro files p
      rw [attempt_deliver]
      cases host.write files path (text ++ "\n") with
      | ok after => exact nofun
      | error e => exact fun _ => rfl

/-- What is printed of the result of a command. -/
def printed (result : Option String) : String := (result.map (· ++ "\n")).getD ""

/-- What is left of a delivery is the print or the file. -/
theorem attempt_deliver_eq_ok_iff {output : Option String} {print : String} :
    (∃ result, host.attempt (Task.deliver output (some text)) files = (.ok result, after) ∧
        printed result = print) ↔
      host.Delivered files text output print after := by
  cases output with
  | none =>
      constructor
      · rintro ⟨_, ⟨⟩, rfl⟩
        exact ⟨rfl, rfl⟩
      · rintro ⟨rfl, rfl⟩
        exact ⟨some text, rfl, rfl⟩
  | some path =>
      rw [attempt_deliver, Delivered]
      cases host.write files path (text ++ "\n") with
      | ok written =>
          constructor
          · rintro ⟨_, ⟨⟩, rfl⟩
            exact ⟨rfl, rfl⟩
          · rintro ⟨rfl, ⟨⟩⟩
            exact ⟨none, rfl, rfl⟩
      | error e =>
          refine iff_of_false ?_ ?_
          · rintro ⟨_, ⟨⟩, -⟩
          · rintro ⟨-, ⟨⟩⟩

/-- A command that fails leaves the files as they are. -/
theorem careful_ofLine (libs : Libraries) (env : Environment) (line : Line) :
    host.Careful (Task.ofLine libs env line) := by
  obtain ⟨verb, kind, given⟩ := line
  cases verb with
  | generate =>
      show host.Careful (Task.generate libs env kind given)
      exact (reads_draw libs env kind given).bind_careful (careful_deliver _)
  | compile => exact (reads_compile kind given).careful
  | prompt => exact (Reads.pure _).careful

end Host

/-! ### The program as a whole -/

/-- A run that ends like this is successful, prints this and leaves these files. -/
def Succeeds (exit : Exit) (after : Files) (print : String) (written : Files) : Prop :=
  exit.code = 0 ∧ exit.output = print ∧ after = written

/-- What may be said of a run from some files that ends with this exit and with the files after
it. -/
structure Tidy (host : Host Files) (libs : Libraries) (env : Environment)
    (arguments : List String) (files : Files) (exit : Exit) (after : Files) : Prop where
  /-- A run that fails prints nothing and changes nothing. -/
  failed : exit.code ≠ 0 → exit.output = "" ∧ after = files
  /-- `generate` is successful only with a diagram and if it is delivered. -/
  generated : ∀ kind given, Line.ofArguments arguments = .ok ⟨.generate, kind, given⟩ →
    ∀ print written, Succeeds exit after print written ↔
      ∃ text, host.Drawn libs files env kind given text ∧
        host.Delivered files text (given.value? .output) print written
  /-- `compile` is successful if the plan can be read and has a diagram. -/
  compiled : ∀ kind given, Line.ofArguments arguments = .ok ⟨.compile, kind, given⟩ →
    (exit.code = 0 ↔ ∃ plan text, host.source files (given.value? .input) = .ok plan ∧
      diagramOfText kind plan = .ok text) ∧
    ∀ print written, Succeeds exit after print written ↔
      ∃ text, (∃ plan, host.source files (given.value? .input) = .ok plan ∧
        diagramOfText kind plan = .ok text) ∧ host.Delivered files text none print written

namespace Host

/-- A run ends as its command does. -/
theorem run_program {arguments : List String} {line : Line}
    (h : Line.ofArguments arguments = .ok line) :
    host.run (program libs env arguments) files =
      (.ofResult (host.attempt (Task.ofLine libs env line) files).1,
        (host.attempt (Task.ofLine libs env line) files).2) := by
  rw [program, h]
  exact run_bind ..

/-- A run is successful if its command comes to a result, and prints just that. -/
theorem succeeds_iff {task : Task (Option String)} {print : String} :
    Succeeds (.ofResult (host.attempt task files).1) (host.attempt task files).2 print after ↔
      ∃ result, host.attempt task files = (.ok result, after) ∧ printed result = print := by
  rcases host.attempt task files with ⟨p | result, files'⟩
  · refine iff_of_false ?_ ?_
    · rintro ⟨⟨⟩, -⟩
    · rintro ⟨_, ⟨⟩, -⟩
  · have hexit : Exit.ofResult (.ok result) = ⟨0, printed result, ""⟩ := by cases result <;> rfl
    rw [hexit]
    constructor
    · rintro ⟨-, hprint, rfl⟩
      exact ⟨result, rfl, hprint⟩
    · rintro ⟨_, ⟨⟩, hprint⟩
      exact ⟨rfl, hprint, rfl⟩

/-- A command that fails leaves nothing. -/
theorem run_of_failed {arguments : List String}
    (h : (host.run (program libs env arguments) files).1.code ≠ 0) :
    (host.run (program libs env arguments) files).1.output = "" ∧
      (host.run (program libs env arguments) files).2 = files := by
  cases hline : Line.ofArguments arguments with
  | error stop =>
      rw [program, hline] at h ⊢
      cases stop with
      | help => exact absurd rfl h
      | misuse m => exact ⟨rfl, rfl⟩
  | ok line =>
      rw [run_program hline] at h ⊢
      cases hresult : (host.attempt (Task.ofLine libs env line) files).1 with
      | ok result =>
          rw [hresult] at h
          cases result <;> exact absurd rfl h
      | error p => exact ⟨rfl, careful_ofLine libs env line files p hresult⟩

/-- What is read and then delivered is what is left. -/
theorem succeeds_deliver_iff {task : Task (Option String)} {found : Files → String → Prop}
    (h : host.Reads task fun files result => ∃ text, result = some text ∧ found files text)
    {output : Option String} {print : String} :
    Succeeds (.ofResult (host.attempt (task >>= Task.deliver output) files).1)
        (host.attempt (task >>= Task.deliver output) files).2 print after ↔
      ∃ text, found files text ∧ host.Delivered files text output print after := by
  rw [succeeds_iff]
  constructor
  · rintro ⟨result, hresult, hprint⟩
    obtain ⟨_, ⟨text, rfl, hfound⟩, hdelivered⟩ := h.attempt_bind_eq_ok_iff.1 hresult
    exact ⟨text, hfound, attempt_deliver_eq_ok_iff.1 ⟨result, hdelivered, hprint⟩⟩
  · rintro ⟨text, hfound, hdelivered⟩
    obtain ⟨result, hresult, hprint⟩ := attempt_deliver_eq_ok_iff.2 hdelivered
    exact ⟨result, h.attempt_bind_eq_ok_iff.2 ⟨_, ⟨text, rfl, hfound⟩, hresult⟩, hprint⟩

/-- `generate` is successful with what is drawn and delivered. -/
theorem succeeds_generate_iff {arguments : List String} {print : String}
    (h : Line.ofArguments arguments = .ok ⟨.generate, kind, given⟩) :
    Succeeds (host.run (program libs env arguments) files).1
        (host.run (program libs env arguments) files).2 print after ↔
      ∃ text, host.Drawn libs files env kind given text ∧
        host.Delivered files text (given.value? .output) print after := by
  rw [run_program h, Task.ofLine, Task.generate]
  exact succeeds_deliver_iff (reads_draw libs env kind given)

/-- `compile` is successful with the diagram of a plan that can be read. -/
theorem succeeds_compile_iff {arguments : List String} {print : String}
    (h : Line.ofArguments arguments = .ok ⟨.compile, kind, given⟩) :
    Succeeds (host.run (program libs env arguments) files).1
        (host.run (program libs env arguments) files).2 print after ↔
      ∃ text, (∃ plan, host.source files (given.value? .input) = .ok plan ∧
        diagramOfText kind plan = .ok text) ∧ host.Delivered files text none print after := by
  have hcompile : Task.compile kind given = Task.compile kind given >>= Task.deliver none :=
    (bind_pure _).symm
  rw [run_program h, Task.ofLine, hcompile]
  exact succeeds_deliver_iff (reads_compile kind given)

/-- **Every run is tidy**, wherever it takes place. -/
theorem tidy_run (host : Host Files) (libs : Libraries) (env : Environment)
    (arguments : List String) (files : Files) :
    Tidy host libs env arguments files (host.run (program libs env arguments) files).1
      (host.run (program libs env arguments) files).2 where
  failed := run_of_failed
  generated _ _ hline _ _ := succeeds_generate_iff hline
  compiled kind given hline := by
    refine ⟨⟨fun h => ?_, ?_⟩, fun _ _ => succeeds_compile_iff hline⟩
    · obtain ⟨text, ⟨plan, hplan, htext⟩, -⟩ := (succeeds_compile_iff hline).1 ⟨h, rfl, rfl⟩
      exact ⟨plan, text, hplan, htext⟩
    · rintro ⟨plan, text, hplan, htext⟩
      exact ((succeeds_compile_iff hline).2 ⟨text, ⟨plan, hplan, htext⟩, rfl, rfl⟩).1

end Host
end Anywhere

namespace World

/-- **A run that fails leaves no trace, and one that is successful leaves just its diagram**: in
the described world as on any other host.  In the described world the file that is written is the
only one that changes, and it holds what was written. -/
theorem traces_of_run (libs : Libraries) (env : Environment) (arguments : List String) :
    (∀ (Files : Type) (host : Host Files) (files : Files),
        Tidy host libs env arguments files (host.run (program libs env arguments) files).1
          (host.run (program libs env arguments) files).2) ∧
      (∀ w : World, Tidy w.host libs env arguments w.files ((program libs env arguments).run w).1
        ((program libs env arguments).run w).2.files) ∧
      ∀ (files after : Files) (path text : String), files.write path text = .ok after →
        ∃ name, Place.ofPath path = .entry name ∧ ∀ other,
          after.lookup other = if other = name then some text else files.lookup other := by
  refine ⟨fun _ host files => host.tidy_run libs env arguments files, fun w => ?_,
    fun _ _ _ _ => Files.lookup_of_write⟩
  have hrun := run_eq w (program libs env arguments)
  rw [hrun.1, hrun.2]
  exact w.host.tidy_run libs env arguments w.files

/-- A world with some code and an old diagram. -/
def withDiagram (service : Chat.Exchange) : World :=
  ⟨[("d.mmd", "old"), ("f.c", "f();")], "", fun _ => service, []⟩

/-- The command line that asks for a diagram of the code in place of the old one. -/
def redraw : List String :=
  ["generate", "--kind", "flowchart", "--input", "f.c", "--output", "d.mmd"]

/-- What becomes of it if there is a key. -/
def redrawn (service : Chat.Exchange) : Exit × World :=
  (program .bundled ⟨some "key", none⟩ redraw).run (withDiagram service)

/-- An answer with an empty plan. -/
def planned : Chat.Exchange :=
  .answered 200 <| .ok <| "\x7b\"choices\": [\x7b\"index\": 0, \"message\": " ++
    "\x7b\"role\": \"assistant\", \"content\": \"\x7b\\\"nodes\\\": [], " ++
    "\\\"edges\\\": []\x7d\"\x7d\x7d]\x7d"

/-- An answer of a service that breaks down. -/
def down : Chat.Exchange := .answered 500 (.ok "")

/-- `traces_of_run` at work, with the libraries that come along: the diagram takes the place of the
old one and no other file changes; if the service breaks down, the old one stays. -/
theorem traces_of_run_redraw :
    (∃ text, (withDiagram planned).host.Drawn .bundled (withDiagram planned).files
          ⟨some "key", none⟩ .flowchart
          [(.kind, "flowchart"), (.input, "f.c"), (.output, "d.mmd")] text ∧
        (redrawn planned).1.output = "" ∧
        (redrawn planned).2.files.lookup "d.mmd" = some (text ++ "\n") ∧
        (redrawn planned).2.files.lookup "f.c" = some "f();") ∧
      (redrawn down).1.code = 1 ∧ (redrawn down).1.output = "" ∧
      (redrawn down).2.files = (withDiagram down).files := by
  obtain ⟨-, htidy, hwrite⟩ := traces_of_run .bundled ⟨some "key", none⟩ redraw
  have hline : Line.ofArguments redraw = .ok ⟨.generate, .flowchart,
      [(.kind, "flowchart"), (.input, "f.c"), (.output, "d.mmd")]⟩ := rfl
  have hdone : (redrawn planned).1.code = 0 := by decide +kernel
  have hbroken : (redrawn down).1.code = 1 := by decide +kernel
  have hgenerated := (htidy (withDiagram planned)).generated .flowchart _ hline
    (redrawn planned).1.output (redrawn planned).2.files
  obtain ⟨text, hdrawn, hprint, hwritten⟩ := hgenerated.1 ⟨hdone, rfl, rfl⟩
  obtain ⟨name, hplace, hlookup⟩ := hwrite _ _ "d.mmd" (text ++ "\n") hwritten
  have hname : Place.ofPath "d.mmd" = .entry "d.mmd" := by decide +kernel
  cases hname.symm.trans hplace
  have hfailed := (htidy (withDiagram down)).failed (hbroken ▸ Nat.one_ne_zero)
  exact ⟨⟨text, hdrawn, hprint, hlookup "d.mmd", hlookup "f.c"⟩, hbroken, hfailed⟩

end World
end Command
end CodeDiagram
