/-
# The requests of a run

A run makes requests one after the other, and what it makes can be told from
the program and its host (`Host.requests`): a bind makes those of the first
program and then those of the second (`Host.requests_bind`).  The described
world keeps just these (`World.sent_run`).

A task that makes none is quiet (`Host.Quiet`).  At some files it either finds
something (`Host.Finds`), and the next task goes on as if it had been told, or
stops at a problem (`Host.Stops`), and so does all that starts with it.
-/

import CodeDiagram.Proofs.Command.Host
import Mathlib.Data.List.Basic

namespace CodeDiagram
namespace Command
namespace Host

variable {Files α β : Type}

/-- The requests that a run of a program makes, in order. -/
def requests {α : Type} (host : Host Files) : Program α → Files → List Chat.Post
  | .done _, _ => []
  | .isThere path next, files => host.requests (next (host.isThere files path)) files
  | .readFile path next, files => host.requests (next (host.read files path)) files
  | .readInput next, files => host.requests (next host.input) files
  | .exchange post next, files => post :: host.requests (next (host.service post)) files
  | .writeFile path text next, files =>
    match host.write files path text with
    | .ok files => host.requests (next (.ok ())) files
    | .error e => host.requests (next (.error e)) files

variable (host : Host Files)

/-- **A bind makes the requests of one program after those of the other.** -/
theorem requests_bind (p : Program α) (next : α → Program β) (files : Files) :
    host.requests (p >>= next) files =
      host.requests p files ++ host.requests (next (host.run p files).1) (host.run p files).2 := by
  show host.requests (p.bind next) files = _
  induction p generalizing files with
  | done result => rfl
  | isThere path k ih => exact ih (host.isThere files path) files
  | readFile path k ih => exact ih (host.read files path) files
  | readInput k ih => exact ih host.input files
  | exchange post k ih => exact congrArg (post :: ·) (ih (host.service post) files)
  | writeFile path text k ih =>
      rw [Program.bind, requests, requests, run]
      cases host.write files path text with
      | ok files' => exact ih (.ok ()) files'
      | error e => exact ih (.error e) files

/-- The addresses that get a request where these are made: each request goes to its own address, and
on to those that it is redirected to. -/
def traffic (requests : List Chat.Post) : List String :=
  requests.flatMap fun post => post.url :: host.redirections post

variable {host} in
/-- Without redirections nothing gets a request but what is asked. -/
theorem traffic_eq_map {requests : List Chat.Post}
    (h : ∀ post ∈ requests, host.redirections post = []) :
    host.traffic requests = requests.map Chat.Post.url := by
  rw [traffic, List.map_eq_flatMap]
  exact List.flatMap_congr fun post hpost => congrArg (post.url :: ·) (h post hpost)

/-- The requests that a task makes. -/
def asked (task : Task α) (files : Files) : List Chat.Post := host.requests task.run files

variable {host} {files after : Files} {task : Task α} {next : α → Task β} {a : α} {b : β}
  {problem : Problem}

/-- A task that comes next makes its requests only if the first task succeeds. -/
theorem asked_bind (task : Task α) (next : α → Task β) :
    host.asked (task >>= next) files = host.asked task files ++
      match host.attempt task files with
      | (.ok a, after) => host.asked (next a) after
      | (.error _, _) => [] := by
  show host.requests (task.run >>= ExceptT.bindCont next) files = _
  rw [requests_bind, asked, attempt]
  rcases host.run task.run files with ⟨_ | a, after⟩ <;> rfl

/-! ### Tasks that make no request -/

variable (host)

/-- The task makes no request. -/
def Quiet (task : Task α) : Prop := ∀ files, host.asked task files = []

/-- The task finds this, and neither changes a file nor makes a request. -/
def Finds (task : Task α) (files : Files) (a : α) : Prop :=
  host.attempt task files = (.ok a, files) ∧ host.asked task files = []

/-- The task stops at a problem, and has neither changed a file nor made a request. -/
def Stops (task : Task α) (files : Files) (problem : Problem) : Prop :=
  host.attempt task files = (.error problem, files) ∧ host.asked task files = []

variable {host}

theorem Quiet.pure (a : α) : host.Quiet (pure a : Task α) := fun _ => rfl

theorem Quiet.throw (problem : Problem) : host.Quiet (throw problem : Task α) := fun _ => rfl

/-- **Tasks that follow a quiet one make all the requests**, and none if they are quiet. -/
theorem Quiet.bind (h : host.Quiet task) (hnext : ∀ a, host.Quiet (next a)) :
    host.Quiet (task >>= next) := by
  intro files
  rw [asked_bind, h files, List.nil_append]
  rcases host.attempt task files with ⟨_ | a, after⟩
  · rfl
  · exact hnext a after

/-- Quiet tasks that come next make no difference. -/
theorem asked_bind_of_quiet (task : Task α) (hnext : ∀ a, host.Quiet (next a)) :
    host.asked (task >>= next) files = host.asked task files := by
  rw [asked_bind]
  rcases host.attempt task files with ⟨_ | a, after⟩
  · exact List.append_nil _
  · show host.asked task files ++ host.asked (next a) after = _
    rw [hnext a after, List.append_nil]

theorem quiet_lift {p : Program α} (h : ∀ files, host.requests p files = []) :
    host.Quiet (ExceptT.lift p) := by
  intro files
  show host.requests (p >>= fun a => Program.done (Except.ok a)) files = _
  rw [requests_bind, h files]
  rfl

theorem quiet_ofExcept {ε : Type} (problem : ε → Problem) (x : Except ε α) :
    host.Quiet (Task.ofExcept problem x) := by
  cases x with
  | error e => exact .throw _
  | ok value => exact .pure value

/-- A step makes no request if its program makes none. -/
theorem quiet_step (what : String) {p : Program (Except FileError α)}
    (h : ∀ files, host.requests p files = []) : host.Quiet (Task.step what p) :=
  (quiet_lift h).bind fun result => quiet_ofExcept _ result

theorem Quiet.finds (h : host.Quiet task) {found : Files → α → Prop}
    (hreads : host.Reads task found) (ha : found files a) : host.Finds task files a :=
  ⟨Prod.ext (((hreads files).2 a).2 ha) (hreads files).1, h files⟩

/-- The next task goes on as if it had been told what was found. -/
theorem Finds.bind (h : host.Finds task files a) (next : α → Task β) :
    host.attempt (task >>= next) files = host.attempt (next a) files ∧
      host.asked (task >>= next) files = host.asked (next a) files := by
  refine ⟨attempt_bind_of_ok h.1, ?_⟩
  rw [asked_bind, h.1, h.2, List.nil_append]

theorem Finds.stops_bind (h : host.Finds task files a) (hnext : host.Stops (next a) files problem) :
    host.Stops (task >>= next) files problem :=
  ⟨(h.bind next).1.trans hnext.1, (h.bind next).2.trans hnext.2⟩

/-- **All that starts with a task that stops, stops.** -/
theorem Stops.bind (h : host.Stops task files problem) (next : α → Task β) :
    host.Stops (task >>= next) files problem := by
  refine ⟨?_, ?_⟩
  · rw [attempt_bind, h.1]
  · rw [asked_bind, h.1, h.2]
    rfl

end Host

namespace World

/-- **A described world keeps the requests of a run**, the latest first. -/
theorem sent_run {α : Type} (w : World) (p : Program α) :
    (p.run w).2.sent = (w.host.requests p w.files).reverse ++ w.sent := by
  induction p generalizing w with
  | done result => rfl
  | isThere path k ih => exact ih _ w
  | readFile path k ih => exact ih _ w
  | readInput k ih => exact ih _ w
  | exchange post k ih =>
      rw [Host.requests, List.reverse_cons, List.append_assoc]
      exact ih _ { w with sent := post :: w.sent }
  | writeFile path text k ih =>
      have hwrite : w.host.write w.files path text = w.files.write path text := rfl
      rw [Program.run, Host.requests, hwrite]
      cases w.files.write path text with
      | ok files => exact ih (.ok ()) { w with files }
      | error e => exact ih (.error e) w

end World
end Command
end CodeDiagram
