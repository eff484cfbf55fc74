/-
Module: ModuleAlias.Proofs.CommandLine.Sessions
Purpose: What the parts of a run come to: a result or a fault, and the progress that was made. Each
  part of the command for transforming files has one equation for it, and what a command comes to is
  read off what its parts come to.
Imports: ModuleAlias.CommandLine.Run
Main exports: CommandLine.Session.outcome, CommandLine.Session.outcome_bind,
  CommandLine.outcome_transformFile, CommandLine.transformEach,
  CommandLine.outcome_transformFiles_one, CommandLine.perform_eq_ok
-/
import ModuleAlias.CommandLine.Run

namespace ModuleAlias.CommandLine

namespace Session

variable {α β : Type}

/-- What a part of a run comes to from the progress before it. -/
def outcome (session : Session α) (progress : Progress) : Except Fault α × Progress :=
  session.run.run progress

theorem outcome_pure (result : α) (progress : Progress) :
    Session.outcome (pure result) progress = (.ok result, progress) := rfl

/-- A part goes on from the progress of the part before it, if that did not fail. -/
theorem outcome_bind (first : Session α) (second : α → Session β) (progress : Progress) :
    (first >>= second).outcome progress =
      match first.outcome progress with
      | (.ok middle, next) => (second middle).outcome next
      | (.error fault, next) => (.error fault, next) := by
  have unrolled : (first >>= second).outcome progress =
      (ExceptT.bindCont second (first.outcome progress).1).run (first.outcome progress).2 := rfl
  rw [unrolled]
  rcases first.outcome progress with ⟨result, next⟩
  cases result with
  | error fault => rfl
  | ok middle => rfl

theorem outcome_get (progress : Progress) :
    Session.outcome get progress = (.ok progress, progress) := rfl

theorem outcome_modify (change : Progress → Progress) (progress : Progress) :
    Session.outcome (modify change) progress = (.ok (), change progress) := rfl

theorem outcome_settle (result : Except Fault α) (progress : Progress) :
    (settle result).outcome progress = (result, progress) := rfl

/-- The progress with more messages. -/
def told (text : Text) (progress : Progress) : Progress :=
  { progress with messages := progress.messages ++ text }

theorem outcome_tell (text : Text) (progress : Progress) :
    (tell text).outcome progress = (.ok (), told text progress) := rfl

/-- The lines of a log that are shown. -/
def shown (verbose : Bool) (lines : List LogLine) : Text :=
  (lines.filter (·.isShown verbose)).flatMap LogLine.render

theorem outcome_log (verbose : Bool) (lines : List LogLine) (progress : Progress) :
    (log verbose lines).outcome progress = (.ok (), told (shown verbose lines) progress) := rfl

/-- Writing to a file changes the files, or fails and changes nothing. -/
theorem outcome_write (path : Text) (content : ByteArray) (progress : Progress) :
    (write path content).outcome progress =
      match progress.around.store.overwrite progress.around.process path content with
      | .ok store => (.ok (), { progress with around := { progress.around with store } })
      | .error fault => (.error (.access fault), progress) := by
  simp only [write, outcome_bind, outcome_get]
  cases progress.around.store.overwrite progress.around.process path content with
  | error fault => rfl
  | ok store => rfl

end Session

open Session

/-!
### One file
-/

/-- The progress behind a run over the text of a file: what it logged, and the configurations that
it read. -/
def afterRun (verbose : Bool) (transform : Transform) (text : String) (filename : Text)
    (progress : Progress) : Progress :=
  let run := transform.runSource progress.around text filename progress.provider
  let lines := runLog progress.around transform.options text filename progress.provider run
  { told (shown verbose lines) progress with provider := run.state }

/-- What is done with the result for a file. In place, it is written if anything was replaced. -/
def deliver (inPlace several : Bool) (path : Text) (result : Transform.Result) : Session Unit :=
  if inPlace then
    if result.changed then write path result.code.toUTF8 else pure ()
  else
    print (fileOutput several path result.code)

/-- What a file comes to. -/
theorem outcome_transformFile (verbose inPlace several : Bool) (transform : Transform) (path : Text)
    (progress : Progress) :
    (transformFile verbose inPlace several transform path).outcome progress =
      match Transform.openFile progress.around path with
      | .error fault => (.error fault, progress)
      | .ok (text, filename) =>
        let next := afterRun verbose transform text filename progress
        match (transform.runSource progress.around text filename progress.provider).result with
        | .error fault => (.error fault, next)
        | .ok result =>
          (deliver inPlace several path result).outcome
            (told (result.replacements.flatMap (replacementMessage path)) next) := by
  simp only [transformFile, outcome_bind, outcome_get]
  cases Transform.openFile progress.around path with
  | error fault => simp only [outcome_settle]
  | ok opened =>
      obtain ⟨text, filename⟩ := opened
      simp only [outcome_settle, outcome_log, outcome_modify]
      cases (transform.runSource progress.around text filename progress.provider).result with
      | error fault => rfl
      | ok result =>
          simp only [outcome_tell]
          rfl

/-- What a file comes to whose result is written in place. -/
theorem outcome_transformFile_inPlace (verbose several : Bool) (transform : Transform) (path : Text)
    (progress : Progress) :
    (transformFile verbose true several transform path).outcome progress =
      match Transform.openFile progress.around path with
      | .error fault => (.error fault, progress)
      | .ok (text, filename) =>
        let next := afterRun verbose transform text filename progress
        match (transform.runSource progress.around text filename progress.provider).result with
        | .error fault => (.error fault, next)
        | .ok result =>
          let next := told (result.replacements.flatMap (replacementMessage path)) next
          if result.changed then (write path result.code.toUTF8).outcome next
          else (.ok (), next) := by
  have delivered : ∀ (result : Transform.Result) (next : Progress),
      (deliver true several path result).outcome next =
        if result.changed then (write path result.code.toUTF8).outcome next
        else (.ok (), next) := by
    intro result next
    rw [deliver, if_pos rfl]
    split
    · rfl
    · rfl
  rw [outcome_transformFile]
  simp only [delivered]

/-!
### All files
-/

theorem outcome_makeTransform (verbose : Bool) (options : Transform.Options)
    (progress : Progress) :
    (makeTransform verbose options).outcome progress =
      match Transform.make progress.around options none with
      | .error fault => (.error fault, progress)
      | .ok transform =>
        (.ok transform,
          told (shown verbose (discoveryLog options.working transform.dependencies)) progress) := by
  simp only [makeTransform, outcome_bind, outcome_get]
  cases Transform.make progress.around options none with
  | error fault => rfl
  | ok transform => rfl

/-- What files come to one after another. The first fault ends the run. -/
def transformEach (verbose write several : Bool) (transform : Transform) :
    List Text → Progress → Except Fault Unit × Progress
  | [], progress => (.ok (), progress)
  | path :: paths, progress =>
    match (transformFile verbose write several transform path).outcome progress with
    | (.ok (), next) => transformEach verbose write several transform paths next
    | (.error fault, next) => (.error fault, next)

theorem outcome_forIn (verbose write several : Bool) (transform : Transform) (files : List Text)
    (progress : Progress) :
    Session.outcome (do
      for path in files do
        transformFile verbose write several transform path) progress =
      transformEach verbose write several transform files progress := by
  induction files generalizing progress with
  | nil => rfl
  | cons path paths ih =>
      simp only [outcome_bind, outcome_pure] at ih
      simp only [List.forIn_cons, outcome_bind, outcome_pure, transformEach]
      rcases (transformFile verbose write several transform path).outcome progress with
        ⟨result, next⟩
      cases result with
      | error fault => rfl
      | ok done => exact ih next

/-- What the command for transforming files comes to. -/
theorem outcome_transformFiles (read : Arguments) (files : List Text) (progress : Progress) :
    (transformFiles read files).outcome progress =
      match (makeTransform (read.has .debug) (optionsOf read)).outcome progress with
      | (.ok transform, next) =>
        transformEach (read.has .debug) (read.has .write) (1 < files.length) transform files next
      | (.error fault, next) => (.error fault, next) := by
  rw [transformFiles, outcome_bind]
  rcases (makeTransform (read.has .debug) (optionsOf read)).outcome progress with ⟨result, next⟩
  cases result with
  | error fault => rfl
  | ok transform => exact outcome_forIn _ _ _ transform files next

/-- What the command for transforming files comes to for one file. -/
theorem outcome_transformFiles_one (read : Arguments) (path : Text) (around : Surroundings) :
    (transformFiles read [path]).outcome { around } =
      match Transform.make around (optionsOf read) none with
      | .error fault => (.error fault, { around })
      | .ok transform =>
        (transformFile (read.has .debug) (read.has .write) false transform path).outcome
          (told (shown (read.has .debug) (discoveryLog (optionsOf read).working
            transform.dependencies)) { around }) := by
  rw [outcome_transformFiles, outcome_makeTransform]
  cases Transform.make around (optionsOf read) none with
  | error fault => rfl
  | ok transform =>
      simp only [transformEach, List.length_singleton, Nat.lt_irrefl, decide_false]
      split
      · rename_i came
        exact came.symm
      · rename_i came
        exact came.symm

/-!
### Commands
-/

section
variable {around : Surroundings} {session : Session Unit}

/-- The files after a command are those that its parts leave. -/
theorem store_perform :
    (perform around session).store = (session.outcome { around }).2.around.store := by
  unfold perform Session.outcome
  rcases session.run.run { around } with ⟨result, progress⟩
  cases result with
  | ok done => rfl
  | error fault => cases report : fault.report? <;> simp [report]

/-- The output of a command is what its parts print. -/
theorem output_perform :
    (perform around session).output = (session.outcome { around }).2.output := by
  unfold perform Session.outcome
  rcases session.run.run { around } with ⟨result, progress⟩
  cases result with
  | ok done => rfl
  | error fault => cases report : fault.report? <;> simp [report]

/-- A command in which nothing fails ends with status 0. -/
theorem status_perform {next : Progress} (came : session.outcome { around } = (.ok (), next)) :
    (perform around session).status = .ok 0 := by
  unfold Session.outcome at came
  simp only [perform, came]

/-- A command ends with status 0 only if nothing failed. -/
theorem perform_eq_ok (done : (perform around session).status = .ok 0) :
    ∃ next, session.outcome { around } = (.ok (), next) ∧
      (perform around session).messages = next.messages := by
  revert done
  unfold perform Session.outcome
  rcases session.run.run { around } with ⟨result, progress⟩
  intro done
  cases result with
  | ok _ => exact ⟨progress, rfl, rfl⟩
  | error fault => cases report : fault.report? <;> simp [report] at done

end

end ModuleAlias.CommandLine
