/-
# Running a program in any surroundings

A host says what comes back from each step of a program (`Host`).  Its files
may be anything: all that counts is which paths are there, what reading gives,
and that writing either fails, and then the files stay as they are, or gives the
files as they are then.  The described world is one such host (`World.run_eq`).

A task is attempted on files and gives a result, or a problem, and the files
after it (`Host.attempt`); a bind attempts one task after the other
(`Host.attempt_bind`).  Two things can be said of a task without looking inside
again: it changes no file and finds this or that in them (`Host.Reads`), or it
changes no file if it fails (`Host.Careful`).
-/

import CodeDiagram.Command.Run
import CodeDiagram.Command.World

namespace CodeDiagram
namespace Command

namespace Program

theorem bind_done {α : Type} (p : Program α) : p.bind .done = p := by
  induction p with
  | done result => rfl
  | isThere path k ih => exact congrArg (isThere path) (funext ih)
  | readFile path k ih => exact congrArg (readFile path) (funext ih)
  | readInput k ih => exact congrArg readInput (funext ih)
  | exchange post k ih => exact congrArg (exchange post) (funext ih)
  | writeFile path text k ih => exact congrArg (writeFile path text) (funext ih)

/-- It does not matter how programs that follow each other are put together. -/
theorem bind_bind {α β γ : Type} (p : Program α) (f : α → Program β) (g : β → Program γ) :
    (p.bind f).bind g = p.bind fun a => (f a).bind g := by
  induction p with
  | done result => rfl
  | isThere path k ih => exact congrArg (isThere path) (funext ih)
  | readFile path k ih => exact congrArg (readFile path) (funext ih)
  | readInput k ih => exact congrArg readInput (funext ih)
  | exchange post k ih => exact congrArg (exchange post) (funext ih)
  | writeFile path text k ih => exact congrArg (writeFile path text) (funext ih)

instance : LawfulMonad Program := LawfulMonad.mk' Program bind_done (fun _ _ => rfl) bind_bind

end Program

/-- The surroundings of a program. -/
structure Host (Files : Type) where
  isThere : Files → String → Bool
  read : Files → String → Except FileError String
  /-- Writes a file, as a whole or not at all. -/
  write : Files → String → String → Except FileError Files
  input : Except FileError String
  /-- How the service treats a request. -/
  service : Chat.Post → Chat.Exchange
  /-- The addresses that the client goes on to by itself, where the service redirects a request. -/
  redirections : Chat.Post → List String

namespace Host

variable {Files α β : Type}

/-- Runs a program on some files. -/
def run {α : Type} (host : Host Files) : Program α → Files → α × Files
  | .done result, files => (result, files)
  | .isThere path next, files => host.run (next (host.isThere files path)) files
  | .readFile path next, files => host.run (next (host.read files path)) files
  | .readInput next, files => host.run (next host.input) files
  | .exchange post next, files => host.run (next (host.service post)) files
  | .writeFile path text next, files =>
    match host.write files path text with
    | .ok files => host.run (next (.ok ())) files
    | .error e => host.run (next (.error e)) files

variable (host : Host Files)

/-- **A bind runs one program after the other.** -/
theorem run_bind (p : Program α) (next : α → Program β) (files : Files) :
    host.run (p >>= next) files = host.run (next (host.run p files).1) (host.run p files).2 := by
  show host.run (p.bind next) files = _
  induction p generalizing files with
  | done result => rfl
  | isThere path k ih => exact ih (host.isThere files path) files
  | readFile path k ih => exact ih (host.read files path) files
  | readInput k ih => exact ih host.input files
  | exchange post k ih => exact ih (host.service post) files
  | writeFile path text k ih =>
      rw [Program.bind, run, run]
      cases host.write files path text with
      | ok files' => exact ih (.ok ()) files'
      | error e => exact ih (.error e) files

/-- What a task comes to on some files. -/
def attempt (task : Task α) (files : Files) : Except Problem α × Files := host.run task.run files

variable {host} {files after : Files} {task : Task α} {next : α → Task β}

@[simp] theorem attempt_pure (a : α) : host.attempt (pure a) files = (.ok a, files) := rfl

@[simp] theorem attempt_throw (p : Problem) :
    host.attempt (throw p : Task α) files = (.error p, files) := rfl

/-- **A bind attempts one task after the other**, unless the first fails. -/
theorem attempt_bind (task : Task α) (next : α → Task β) :
    host.attempt (task >>= next) files =
      match host.attempt task files with
      | (.ok a, after) => host.attempt (next a) after
      | (.error p, after) => (.error p, after) := by
  show host.run (task.run >>= ExceptT.bindCont next) files = _
  rw [run_bind, attempt]
  rcases host.run task.run files with ⟨_ | a, after⟩ <;> rfl

/-- After a task that succeeds the next one goes on. -/
theorem attempt_bind_of_ok {a : α} (h : host.attempt task files = (.ok a, after)) :
    host.attempt (task >>= next) files = host.attempt (next a) after := by
  rw [attempt_bind, h]

/-- What a program gives that cannot fail. -/
theorem attempt_lift (p : Program α) :
    host.attempt (ExceptT.lift p) files = (.ok (host.run p files).1, (host.run p files).2) := by
  show host.run (p >>= fun a => Program.done (Except.ok a)) files = _
  rw [run_bind]
  rfl

/-! ### Tasks that leave the files alone -/

variable (host)

/-- The task changes no file, and it succeeds with just those results that are `found` in them. -/
def Reads (task : Task α) (found : Files → α → Prop) : Prop :=
  ∀ files, (host.attempt task files).2 = files ∧
    ∀ a, (host.attempt task files).1 = .ok a ↔ found files a

/-- The task changes no file if it fails. -/
def Careful (task : Task α) : Prop :=
  ∀ files p, (host.attempt task files).1 = .error p → (host.attempt task files).2 = files

variable {host} {found : Files → α → Prop} {foundNext : α → Files → β → Prop}

/-- A task reads if what comes of it is said without its changing a file. -/
theorem Reads.of_attempt_eq (result : Files → Except Problem α)
    (h : ∀ files, host.attempt task files = (result files, files))
    (hfound : ∀ files a, result files = .ok a ↔ found files a) : host.Reads task found := by
  intro files
  rw [h files]
  exact ⟨rfl, hfound files⟩

theorem Reads.pure (a : α) : host.Reads (pure a : Task α) fun _ b => a = b :=
  .of_attempt_eq _ (fun _ => attempt_pure a) fun _ _ => ⟨Except.ok.inj, congrArg _⟩

theorem Reads.throw (p : Problem) : host.Reads (throw p : Task α) fun _ _ => False :=
  .of_attempt_eq _ (fun _ => attempt_throw p) fun _ _ => iff_of_false nofun id

/-- What is found may be said in other words. -/
theorem Reads.congr {found' : Files → α → Prop} (h : host.Reads task found)
    (hfound : ∀ files a, found files a ↔ found' files a) : host.Reads task found' :=
  fun files => ⟨(h files).1, fun a => ((h files).2 a).trans (hfound files a)⟩

/-- A task that only reads is careful. -/
theorem Reads.careful (h : host.Reads task found) : host.Careful task :=
  fun files _ _ => (h files).1

/-- What is done after a task that only reads finds the same files. -/
theorem Reads.attempt_bind (h : host.Reads task found) (next : α → Task β) (files : Files) :
    host.attempt (task >>= next) files =
      match (host.attempt task files).1 with
      | .ok a => host.attempt (next a) files
      | .error p => (.error p, files) := by
  have hfiles := (h files).1
  rw [Host.attempt_bind]
  rcases hresult : host.attempt task files with ⟨_ | a, after⟩ <;>
    · rw [hresult] at hfiles
      rw [show after = files from hfiles]

/-- What is done after reading goes on with what is found. -/
theorem Reads.attempt_bind_eq_ok_iff (h : host.Reads task found) {b : β} :
    host.attempt (task >>= next) files = (.ok b, after) ↔
      ∃ a, found files a ∧ host.attempt (next a) files = (.ok b, after) := by
  simp only [← (h files).2]
  rw [h.attempt_bind]
  cases (host.attempt task files).1 with
  | error p => exact iff_of_false nofun (by rintro ⟨_, ⟨⟩, _⟩)
  | ok a =>
      constructor
      · exact fun hnext => ⟨a, rfl, hnext⟩
      · rintro ⟨_, ⟨⟩, hnext⟩
        exact hnext

/-- **Reading twice is reading.** -/
theorem Reads.bind (h : host.Reads task found) (hnext : ∀ a, host.Reads (next a) (foundNext a)) :
    host.Reads (task >>= next) fun files b => ∃ a, found files a ∧ foundNext a files b := by
  intro files
  have hfiles : (host.attempt (task >>= next) files).2 = files := by
    rw [h.attempt_bind]
    cases (host.attempt task files).1 with
    | error p => rfl
    | ok a => exact (hnext a files).1
  refine ⟨hfiles, fun b => ?_⟩
  calc (host.attempt (task >>= next) files).1 = .ok b
      ↔ host.attempt (task >>= next) files = (.ok b, files) := by
        rw [Prod.ext_iff, and_iff_left hfiles]
    _ ↔ ∃ a, found files a ∧ host.attempt (next a) files = (.ok b, files) :=
        h.attempt_bind_eq_ok_iff
    _ ↔ ∃ a, found files a ∧ foundNext a files b := by
        refine exists_congr fun a => and_congr_right fun _ => ?_
        rw [← (hnext a files).2, Prod.ext_iff, and_iff_left (hnext a files).1]

/-- **Reading in front of a careful task is careful.** -/
theorem Reads.bind_careful (h : host.Reads task found) (hnext : ∀ a, host.Careful (next a)) :
    host.Careful (task >>= next) := by
  intro files p
  rw [h.attempt_bind]
  cases (host.attempt task files).1 with
  | error p => exact fun _ => rfl
  | ok a => exact hnext a files p

end Host

namespace Files

/-- The first file of a name is the one that counts. -/
theorem lookup_cons (key text other : String) (files : Files) :
    List.lookup other ((key, text) :: files) =
      if other = key then some text else files.lookup other := by
  rw [List.lookup_cons]
  by_cases h : other = key
  · rw [if_pos h, beq_iff_eq.2 h]
  · rw [if_neg h, beq_eq_false_iff_ne.2 h]

/-- Only the name that is given a text has another one then. -/
theorem lookup_put (files : Files) (name text other : String) :
    (files.put name text).lookup other =
      if other = name then some text else files.lookup other := by
  induction files with
  | nil => exact lookup_cons name text other []
  | cons file files ih =>
      obtain ⟨key, old⟩ := file
      rw [put]
      split
      · next h =>
        subst h
        rw [lookup_cons, lookup_cons]
        split <;> rfl
      · next h =>
        rw [lookup_cons, lookup_cons, ih]
        -- the two names that are asked about are different
        by_cases hkey : other = key
        · rw [if_pos hkey, if_pos hkey, if_neg (hkey ▸ h)]
        · rw [if_neg hkey, if_neg hkey]

/-- Writing succeeds only at a name, and no other name is touched. -/
theorem lookup_of_write {files after : Files} {path text : String}
    (h : files.write path text = .ok after) :
    ∃ name, Place.ofPath path = .entry name ∧
      ∀ other, after.lookup other = if other = name then some text else files.lookup other := by
  rw [write] at h
  cases hplace : Place.ofPath path with
  | entry name =>
      rw [hplace] at h
      cases h
      exact ⟨name, rfl, files.lookup_put name text⟩
  | directory => rw [hplace] at h; cases h
  | slashed name => rw [hplace] at h; cases h
  | below name => rw [hplace] at h; cases h
  | outside => rw [hplace] at h; cases h

end Files

namespace World

/-- The host that a described world is.  Its service redirects no request. -/
def host (w : World) : Host Files where
  isThere := Files.isThere
  read := Files.read
  write := Files.write
  input := .ok w.input
  service := w.service
  redirections _ := []

/-- **A program runs in a described world as on its host.** -/
theorem run_eq {α : Type} (w : World) (p : Program α) :
    (p.run w).1 = (w.host.run p w.files).1 ∧ (p.run w).2.files = (w.host.run p w.files).2 := by
  induction p generalizing w with
  | done result => exact ⟨rfl, rfl⟩
  | isThere path k ih => exact ih _ w
  | readFile path k ih => exact ih _ w
  | readInput k ih => exact ih _ w
  | exchange post k ih => exact ih _ { w with sent := post :: w.sent }
  | writeFile path text k ih =>
      have hwrite : w.host.write w.files path text = w.files.write path text := rfl
      rw [Program.run, Host.run, hwrite]
      cases w.files.write path text with
      | ok files => exact ih (.ok ()) { w with files }
      | error e => exact ih (.error e) w

end World
end Command
end CodeDiagram
