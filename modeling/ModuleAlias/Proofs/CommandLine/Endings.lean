/-
Module: ModuleAlias.Proofs.CommandLine.Endings
Purpose: How commands end whose configuration or manifest cannot be used. A reported fault ends a
  command with status 1 and its report as the last message, any other fault without a status.
Imports: ModuleAlias.Proofs.CommandLine.Agreement, ModuleAlias.Proofs.Configuration.Reports,
  ModuleAlias.Proofs.Transform.Asking
Main exports: CommandLine.Outcome.EndsWith, CommandLine.resolve_ends, CommandLine.stopAt,
  CommandLine.transform_ends, CommandLine.unusable_files_reported
-/
import ModuleAlias.Proofs.CommandLine.Agreement
import ModuleAlias.Proofs.Configuration.Reports
import ModuleAlias.Proofs.Transform.Asking

namespace ModuleAlias.CommandLine

open Script Session

/-- A fault ends a command: with status 1 and a last message that is its report, or, if it has none,
without a status. -/
def Outcome.EndsWith (outcome : Outcome) (fault : Fault) : Prop :=
  match fault.report? with
  | some report =>
    outcome.status = .ok 1 ∧ ∃ earlier, outcome.messages =
      earlier ++ Text.ofString "Error: " ++ report.message ++ lineEnd
  | none => outcome.status = .error fault

section
variable {around : Surroundings}

theorem endsWith_of_error {session : Session Unit} {fault : Fault} {next : Progress}
    (came : session.outcome { around } = (.error fault, next)) :
    (perform around session).EndsWith fault := by
  unfold Session.outcome at came
  unfold Outcome.EndsWith perform
  simp only [came]
  cases reported : fault.report? with
  | none => rfl
  | some report => exact ⟨rfl, next.messages, rfl⟩

/-!
### Resolving a specifier
-/

/-- The command that resolves a specifier ends with the fault of its configuration, or else of its
manifest, and with status 0 if both can be used. -/
theorem resolve_ends (read : Arguments) (specifier file : Text) :
    let options := optionsOf read
    let outcome := perform around (resolveSpecifier read specifier file)
    match (Provider.answer {} (Provider.load around options.configuration)).1,
      Manifest.discover around.store around.process options.working with
    | .error fault, _ => outcome.EndsWith fault
    | .ok _, .error fault => outcome.EndsWith fault
    | .ok _, .ok _ => outcome.status = .ok 0 := by
  have came := outcome_resolveSpecifier read specifier file { around }
  dsimp only at came ⊢
  split
  · rename_i fault failed
    rw [failed] at came
    exact endsWith_of_error came
  · rename_i configuration fault loaded failed
    rw [loaded] at came
    simp only [failed] at came
    exact endsWith_of_error came
  · rename_i configuration dependencies loaded discovered
    rw [loaded] at came
    simp only [discovered] at came
    exact status_perform came

/-!
### Transforming files without a configuration
-/

/-- The fault, if any, at which a transform without a configuration stops at a file: the file cannot
be opened, or there is an import or a call in it, so that the configuration is missed. -/
def stopAt (around : Surroundings) (missed : Fault) (path : Text) : Option Fault :=
  match Transform.openFile around path with
  | .error fault => some fault
  | .ok (text, filename) =>
    if (around.parse (Language.ofFilename filename) text).root.asks then some missed else none

/-- The provider cannot load the configuration that a transform asks for. -/
def CannotLoad (transform : Transform) (missed : Fault) (progress : Progress) : Prop :=
  (progress.provider.answer
    (Provider.load progress.around transform.options.configuration)).1 = .error missed

section
variable {transform : Transform} {missed : Fault} {progress : Progress}

/-- Nothing is written for a file in which nothing is replaced. -/
theorem deliver_unchanged (inPlace several : Bool) (path filename : Text) (code : String)
    (progress : Progress) :
    ∃ next,
      (deliver inPlace several path { filename, code, replacements := [] }).outcome progress =
          (.ok (), next) ∧
        next.around = progress.around ∧ next.provider = progress.provider := by
  cases inPlace with
  | true => exact ⟨progress, rfl, rfl, rfl⟩
  | false => exact ⟨_, rfl, rfl, rfl⟩

/-- A transform that cannot have a configuration stops at a file, or passes it and changes
nothing. -/
theorem outcome_transformFile_of_cannotLoad (verbose write several : Bool) (path : Text)
    (cannot : CannotLoad transform missed progress) :
    match stopAt progress.around missed path with
    | some fault => ∃ next,
        (transformFile verbose write several transform path).outcome progress =
          (.error fault, next)
    | none => ∃ next,
        (transformFile verbose write several transform path).outcome progress = (.ok (), next) ∧
          next.around = progress.around ∧ next.provider = progress.provider := by
  rw [outcome_transformFile, stopAt]
  cases Transform.openFile progress.around path with
  | error fault => exact ⟨_, rfl⟩
  | ok opened =>
      obtain ⟨text, filename⟩ := opened
      obtain ⟨state, result⟩ := Transform.runSource_of_load_error cannot text filename
      dsimp only at state result ⊢
      rw [result]
      cases (progress.around.parse (Language.ofFilename filename) text).root.asks with
      | true => exact ⟨_, rfl⟩
      | false =>
          obtain ⟨next, came, around, provider⟩ :=
            deliver_unchanged write several path filename text
              (told [] (afterRun verbose transform text filename progress))
          exact ⟨next, came, around, provider.trans state⟩

/-- A transform that cannot have a configuration ends at the first file at which it stops. -/
theorem transformEach_of_cannotLoad (verbose write several : Bool) (files : List Text)
    (cannot : CannotLoad transform missed progress) :
    ∃ next, transformEach verbose write several transform files progress =
      match files.findSome? (stopAt progress.around missed) with
      | some fault => (.error fault, next)
      | none => (.ok (), next) := by
  induction files generalizing progress with
  | nil => exact ⟨progress, rfl⟩
  | cons path files ih =>
      have here := outcome_transformFile_of_cannotLoad verbose write several path cannot
      rw [List.findSome?_cons, transformEach]
      cases stops : stopAt progress.around missed path with
      | some fault =>
          rw [stops] at here
          obtain ⟨next, came⟩ := here
          exact ⟨next, by rw [came]⟩
      | none =>
          rw [stops] at here
          obtain ⟨next, came, around, provider⟩ := here
          -- The next file meets the same surroundings and a provider that still cannot load.
          have cannot' : CannotLoad transform missed next := by
            rw [CannotLoad, around, provider]
            exact cannot
          obtain ⟨last, rest⟩ := ih cannot'
          rw [around] at rest
          exact ⟨last, by rw [came]; exact rest⟩

end

/-- The command that transforms files ends with the fault of the manifest. If the manifest can be
used and the configuration cannot, it ends at the first file that cannot be opened or that misses
the configuration, and with status 0 if there is none. -/
theorem transform_ends (read : Arguments) (files : List Text) :
    let options := optionsOf read
    let outcome := perform around (transformFiles read files)
    match Manifest.discover around.store around.process options.working with
    | .error fault => outcome.EndsWith fault
    | .ok _ => ∀ missed,
        (Provider.answer {} (Provider.load around options.configuration)).1 = .error missed →
          match files.findSome? (stopAt around missed) with
          | some fault => outcome.EndsWith fault
          | none => outcome.status = .ok 0 := by
  have came := outcome_transformFiles read files { around }
  rw [outcome_makeTransform] at came
  dsimp only at came ⊢
  cases discovered : Manifest.discover around.store around.process (optionsOf read).working with
  | error fault =>
      have failed : Transform.make around (optionsOf read) none = .error fault := by
        simp only [Transform.make, discovered, bind, Except.bind]
      rw [failed] at came
      exact endsWith_of_error came
  | ok dependencies =>
      have made : Transform.make around (optionsOf read) none =
          .ok { options := optionsOf read, dependencies } := by
        simp only [Transform.make, discovered, bind, Except.bind]
        rfl
      intro missed failed
      rw [made] at came
      dsimp only at came
      let begun := told
        (shown (read.has .debug) (discoveryLog (optionsOf read).working dependencies)) { around }
      have cannot : CannotLoad { options := optionsOf read, dependencies } missed begun := failed
      obtain ⟨next, each⟩ := transformEach_of_cannotLoad (read.has .debug) (read.has .write)
        (1 < files.length) files cannot
      rw [each] at came
      cases stops : files.findSome? (stopAt around missed) with
      | some fault =>
          simp only [begun, told, stops] at came
          exact endsWith_of_error came
      | none =>
          simp only [begun, told, stops] at came
          exact status_perform came

end

/-- A request for a configuration is answered or reported, and so is reading a manifest, with the
exceptions of `Configuration.Unreported` and `FileStore.Unreadable`. The commands end with the fault
of the first file that they cannot use: if it is reported, with status 1 and the report as the last
message; if it is one of the exceptions, without a status. -/
theorem unusable_files_reported (around : Surroundings) :
    (∀ (provider : Provider) (options : Configuration.Options),
      let answered := (provider.answer (Provider.load around options)).1
      ((∃ configuration, answered = .ok configuration) ∨
          ∃ fault path, answered = .error fault ∧ Configuration.Reports path fault) ↔
        ∀ fault, ¬ provider.Unreported around options fault) ∧
    (∀ path, let read := Manifest.read around.store around.process path
      ((∃ dependencies, read = .ok dependencies) ∨
          ∃ fault place reason, read = .error fault ∧
            fault.report? = some (.invalidManifest place reason)) ↔
        ∀ fault, ¬ around.store.Unreadable around.process (Path.Plain.ofText path).toText fault) ∧
    ∀ (arguments : List Text) (read : Arguments),
      let options := optionsOf read
      let outcome := run around arguments
      let loaded := (Provider.answer {} (Provider.load around options.configuration)).1
      let discovered := Manifest.discover around.store around.process options.working
      (∀ specifier file, readCommand arguments = .ok (.resolve read specifier file) →
        match loaded, discovered with
        | .error fault, _ => outcome.EndsWith fault
        | .ok _, .error fault => outcome.EndsWith fault
        | .ok _, .ok _ => outcome.status = .ok 0) ∧
      ∀ files, readCommand arguments = .ok (.transform read files) →
        match discovered with
        | .error fault => outcome.EndsWith fault
        | .ok _ => ∀ missed, loaded = .error missed →
            match files.findSome? (stopAt around missed) with
            | some fault => outcome.EndsWith fault
            | none => outcome.status = .ok 0 := by
  refine ⟨fun _ _ => Provider.load_reports_iff, fun _ => Manifest.read_reports_iff, ?_⟩
  intro arguments read options outcome loaded discovered
  constructor
  · intro specifier file asked
    have performed : outcome = perform around (resolveSpecifier read specifier file) := by
      simp only [outcome, run, asked]
    rw [performed]
    exact resolve_ends read specifier file
  · intro files asked
    have performed : outcome = perform around (transformFiles read files) := by
      simp only [outcome, run, asked]
    rw [performed]
    exact transform_ends read files

/-!
### A configuration that is no JSON, and one that is not in UTF-8
-/

/-- Surroundings with a configuration file of the given bytes. -/
def configuredAround (content : ByteArray) : Surroundings where
  store := { items := [(["p"], .directory), (["p", "c.json"], .file content)] }
  process := "/p"
  environment := none
  evaluators :=
    { executable := "node"
      evaluate := fun _ _ => .noEvaluator
      importModule := fun _ => .error [] }
  parse := Script.Tree.ofSource

/-- The command line that resolves a specifier with the configuration. -/
def configuredResolving : List Text := ["resolve", "l", "--from", "a.js", "-c", "c.json"]

/-- The words of the report of the fault that a request ends in. -/
def reportOf (answered : Except Fault Configuration) : Option Text :=
  match answered with
  | .error fault => fault.report?.map (·.message)
  | .ok _ => none

theorem exists_report_of_reportOf {answered : Except Fault Configuration} {message : Text}
    (told : reportOf answered = some message) :
    ∃ fault report, answered = .error fault ∧ fault.report? = some report ∧
      report.message = message := by
  cases answered with
  | ok configuration => cases told
  | error fault =>
      obtain ⟨report, reported, same⟩ := Option.map_eq_some_iff.1 told
      exact ⟨fault, report, rfl, reported, same⟩

/-- The report of a configuration in which an object is not finished. -/
def unfinishedReport : Text :=
  Text.ofString "Cannot find configuration file: /p/c.json (" ++
    Text.ofString "Expecting property name enclosed in double quotes: line 1 column 2 (char 1))"

/-- The command for a configuration that is no JSON tells where it goes wrong. -/
theorem unfinished_object_is_reported :
    let outcome := run (configuredAround "\x7b".toUTF8) configuredResolving
    outcome.status = .ok 1 ∧ ∃ earlier,
      outcome.messages = earlier ++ Text.ofString "Error: " ++ unfinishedReport ++ lineEnd := by
  obtain ⟨read, asked, options⟩ :=
    @exists_resolve_of_readCommand configuredResolving { config := "c.json" } "l" "a.js"
      (by decide +kernel)
  have ends := ((unusable_files_reported (configuredAround "\x7b".toUTF8)).2.2
    configuredResolving read).1 _ _ asked
  have told : reportOf (Provider.answer {} (Provider.load (configuredAround "\x7b".toUTF8)
      (optionsOf read).configuration)).1 = some unfinishedReport := by
    rw [options]
    decide +kernel
  obtain ⟨fault, report, failed, reported, message⟩ := exists_report_of_reportOf told
  rw [failed] at ends
  simp only [Outcome.EndsWith, reported, message] at ends
  exact ends

/-- A configuration file with a byte that is not UTF-8 is neither loaded nor reported. -/
theorem stray_byte_is_not_reported :
    let answered := (Provider.answer {}
      (Provider.load (configuredAround ⟨#[0xff]⟩) { name := "c.json" })).1
    ¬ ((∃ configuration, answered = .ok configuration) ∨
      ∃ fault path, answered = .error fault ∧ Configuration.Reports path fault) := by
  intro answered
  have loads : answered.toOption.isNone = true := by decide +kernel
  have reports : (reportOf answered).isNone = true := by decide +kernel
  rintro (⟨configuration, done⟩ | ⟨fault, path, failed, reason, reported⟩)
  · rw [done] at loads
    cases loads
  · rw [failed, reportOf, reported] at reports
    cases reports

end ModuleAlias.CommandLine
