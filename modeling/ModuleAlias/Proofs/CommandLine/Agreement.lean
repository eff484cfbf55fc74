/-
Module: ModuleAlias.Proofs.CommandLine.Agreement
Purpose: The command that resolves a specifier for a file beside the one that transforms the file.
  Both report the same match and the same external module for an import in the file. They print and
  write the same specifier if the file's name leads to one file from the working directory and from
  the directory of the process.
Imports: ModuleAlias.Proofs.CommandLine.InPlace, ModuleAlias.Proofs.Alias.Importers,
  ModuleAlias.Proofs.Replacement.NamedModules, ModuleAlias.Proofs.Transform.SharedProviders
Main exports: CommandLine.Resolved, CommandLine.Transformed, CommandLine.Shows,
  CommandLine.resolve_shows_transform
-/
import ModuleAlias.Proofs.CommandLine.InPlace
import ModuleAlias.Proofs.Alias.Importers
import ModuleAlias.Proofs.Replacement.NamedModules
import ModuleAlias.Proofs.Transform.SharedProviders

namespace ModuleAlias.CommandLine

open Script Session

/-!
### Resolving a specifier
-/

/-- What a command finds that resolves a specifier for a file, and what it prints. -/
structure Resolved (around : Surroundings) (read : Arguments) (specifier file : Text)
    (outcome : Outcome) where
  configuration : Configuration
  loaded : Provider.unremembered around (optionsOf read).configuration = .ok configuration
  dependencies : Dependencies
  discovered : Manifest.discover around.store around.process (optionsOf read).working =
    .ok dependencies
  answer : Answer
  found : answer = Answer.find configuration dependencies specifier
    (Alias.Importer.ofFile around.process file (optionsOf read).working)
  printed : outcome.output = answer.resolution.specifier ++ lineEnd
  told : ∃ earlier, outcome.messages = earlier ++ answer.messages

/-- The progress with more output. -/
def printing (text : Text) (progress : Progress) : Progress :=
  { progress with output := progress.output ++ text }

/-- What the command for resolving a specifier comes to. -/
theorem outcome_resolveSpecifier (read : Arguments) (specifier file : Text) (progress : Progress) :
    (resolveSpecifier read specifier file).outcome progress =
      let around := progress.around
      let options := optionsOf read
      let logged := fun lines => told (shown (read.has .debug) lines)
      match (progress.provider.answer (Provider.load around options.configuration)).1 with
      | .error fault => (.error fault, progress)
      | .ok configuration =>
        let next := logged (loadLog around progress.provider options.configuration) progress
        match Manifest.discover around.store around.process options.working with
        | .error fault => (.error fault, next)
        | .ok dependencies =>
          let answer := Answer.find configuration dependencies specifier
            (Alias.Importer.ofFile around.process file options.working)
          let next := logged (discoveryLog options.working dependencies) next
          let next := logged (resolutionLog answer.resolution) next
          let next := printing (answer.resolution.specifier ++ lineEnd) next
          (.ok (), told answer.messages next) := by
  simp only [resolveSpecifier, outcome_bind, outcome_get, outcome_settle]
  cases (progress.provider.answer
    (Provider.load progress.around (optionsOf read).configuration)).1 with
  | error fault => rfl
  | ok configuration =>
      simp only [outcome_log]
      cases Manifest.discover progress.around.store progress.around.process
        (optionsOf read).working with
      | error fault => rfl
      | ok dependencies => rfl

/-- A command that resolves a specifier, and in which nothing fails, prints an answer. -/
theorem exists_resolved {around : Surroundings} {read : Arguments} {specifier file : Text}
    (done : (perform around (resolveSpecifier read specifier file)).status = .ok 0) :
    Nonempty (Resolved around read specifier file
      (perform around (resolveSpecifier read specifier file))) := by
  obtain ⟨next, came, messages⟩ := perform_eq_ok done
  have output := @output_perform around (resolveSpecifier read specifier file)
  rw [came] at output
  rw [outcome_resolveSpecifier] at came
  dsimp only at came
  split at came
  · cases came
  · rename_i configuration loaded
    split at came
    · cases came
    · rename_i dependencies discovered
      cases came
      rw [Provider.answered_of_fresh] at loaded
      exact ⟨{ configuration, loaded, dependencies, discovered, found := rfl,
               answer := _, printed := output, told := ⟨_, messages⟩ }⟩

/-!
### Transforming a file
-/

/-- What a command finds that transforms one file, and what it reports. -/
structure Transformed (around : Surroundings) (read : Arguments) (path : Text)
    (outcome : Outcome) where
  transform : Transform
  made : Transform.make around (optionsOf read) none = .ok transform
  text : String
  filename : Text
  opened : Transform.openFile around path = .ok (text, filename)
  result : Transform.Result
  ran : (transform.runSource around text filename {}).result = .ok result
  replaced : result.replacements =
    Transform.replacementsOf (transform.runSource around text filename {}).visited
  reported : ∃ earlier, outcome.messages =
    earlier ++ result.replacements.flatMap (replacementMessage path)

/-- The nodes of the file that were decided about. -/
def Transformed.visited {around : Surroundings} {read : Arguments} {path : Text} {outcome : Outcome}
    (transformed : Transformed around read path outcome) : List Transform.Visited :=
  (transformed.transform.runSource around transformed.text transformed.filename {}).visited

section
variable {verbose inPlace several : Bool} {transform : Transform} {path : Text}
  {progress next : Progress}

/-- What is done with a result is not told. -/
theorem messages_deliver (inPlace several : Bool) (path : Text) (result : Transform.Result)
    (progress : Progress) :
    ((deliver inPlace several path result).outcome progress).2.messages = progress.messages := by
  unfold deliver
  split
  · split
    · rw [outcome_write]
      split
      · rfl
      · rfl
    · rfl
  · rfl

/-- A file in whose transform nothing fails was read, and the replacements in it are reported. -/
theorem exists_result_of_transformFile
    (done : (transformFile verbose inPlace several transform path).outcome progress =
      (.ok (), next)) :
    ∃ text filename result, Transform.openFile progress.around path = .ok (text, filename) ∧
      (transform.runSource progress.around text filename progress.provider).result = .ok result ∧
      ∃ earlier, next.messages =
        earlier ++ result.replacements.flatMap (replacementMessage path) := by
  rw [outcome_transformFile] at done
  split at done
  · cases done
  · rename_i text filename opened
    dsimp only at done
    split at done
    · cases done
    · rename_i result ran
      have kept := messages_deliver inPlace several path result
        (told (result.replacements.flatMap (replacementMessage path))
          (afterRun verbose transform text filename progress))
      rw [done] at kept
      exact ⟨text, filename, result, opened, ran, _, kept⟩

theorem filename_of_openFile {around : Surroundings} {text : String} {filename : Text}
    (opened : Transform.openFile around path = .ok (text, filename)) :
    filename = Path.complete around.process (Path.Plain.ofText path).toText := by
  unfold Transform.openFile at opened
  dsimp only at opened
  split at opened
  · cases opened
  · cases opened
  · cases opened
    rfl

end

/-- A command that transforms one file, and in which nothing fails, reports its replacements. -/
theorem exists_transformed {around : Surroundings} {read : Arguments} {path : Text}
    (done : (perform around (transformFiles read [path])).status = .ok 0) :
    Nonempty (Transformed around read path (perform around (transformFiles read [path]))) := by
  obtain ⟨next, came, messages⟩ := perform_eq_ok done
  rw [outcome_transformFiles_one] at came
  split at came
  · cases came
  · rename_i transform made
    obtain ⟨text, filename, result, opened, ran, reported⟩ := exists_result_of_transformFile came
    have replaced := (Transform.result_of_runTree rfl ran).1
    rw [← messages] at reported
    exact ⟨{ transform, made, text, filename, opened, result, ran, replaced, reported }⟩

/-!
### The two commands
-/

theorem make_eq_ok {around : Surroundings} {options : Transform.Options} {transform : Transform}
    (made : Transform.make around options none = .ok transform) :
    transform.options = options ∧
      Manifest.discover around.store around.process options.working =
        .ok transform.dependencies := by
  obtain ⟨dependencies, discovered, same⟩ := exists_of_bind_eq_ok made
  cases same
  exact ⟨rfl, discovered⟩

/-- An answer, for whatever importing file, tells what an outcome tells, except for the specifier
that is written: this one is the same if both files resolve alike, or if no path comes into it. -/
theorem answer_of_tells {task : Replacement.Task} {configuration : Configuration}
    {specifier : Text} {outcome : Replacement.Outcome}
    (tells : outcome.Tells task configuration specifier) (importer : Alias.Importer) :
    let answer := Answer.find configuration task.dependencies specifier importer
    (answer.resolution.found.map fun found => (found.entry, found.kind)) =
        (outcome.match?.map fun found => (found.entry, found.kind)) ∧
      (answer.external.map fun target => (target.space, target.lookupKey specifier)) =
        outcome.lookup? ∧
      (answer.resolution =
            Alias.resolve configuration.aliases task.dependencies specifier task.importer ∨
          (∀ found ∈ outcome.match?, found.kind = .package) →
        answer.resolution.specifier = outcome.resolved specifier) := by
  intro answer
  obtain ⟨matched, lookedUp⟩ := tells
  have shown : answer.resolution =
      Alias.resolve configuration.aliases task.dependencies specifier importer := rfl
  have external : answer.external =
      answer.resolution.found.bind (Replacement.externalTarget configuration specifier) := by
    rw [Replacement.externalTarget_eq]
    rfl
  have alike : answer.resolution =
      Alias.resolve configuration.aliases task.dependencies specifier task.importer →
        answer.resolution.specifier = outcome.resolved specifier := by
    intro same
    rw [same, Replacement.Outcome.resolved, matched, Alias.Resolution.specifier]
    cases (Alias.resolve configuration.aliases task.dependencies specifier task.importer).found with
    | none => rfl
    | some found => rfl
  rw [external, lookedUp, matched]
  cases applies : configuration.aliases.find specifier with
  | none =>
      have unresolved := Alias.resolve_of_find_none _ task.dependencies specifier applies
      refine ⟨?_, ?_, ?_⟩
      · rw [shown, unresolved, unresolved]
      · rw [shown, unresolved, unresolved]
      · intro _
        exact alike (by rw [shown, unresolved, unresolved])
  | some entry =>
      have resolved := Alias.resolve_of_find_some _ task.dependencies specifier applies
      refine ⟨?_, ?_, ?_⟩
      · simp [shown, resolved]
      · simp [shown, resolved, Replacement.externalTarget]
      · rintro (same | package)
        · exact alike same
        · have kind : Alias.classify task.dependencies entry.target = .package := by
            simpa [resolved] using package
          apply alike
          rw [shown, resolved, resolved,
            Alias.matchWith_of_package task.dependencies specifier kind importer task.importer]

/-- When a process, whose directory is always an absolute one, resolves a specifier for a file and
transforms the file, with the same options for the configuration, then what it tells about the
specifier is what becomes of every import of it in the file: the same entry applies, to a target of
the same kind, and an external module is looked up in the same place. The specifier that is printed
is the one that the import is resolved to if the file's name leads to one file, or if no path comes
into it. -/
theorem resolve_shows_transform {around : Surroundings} {resolving transforming : List Text}
    {read read' : Arguments} {specifier path : Text}
    (inRoot : Path.isAbsolute around.process = true)
    (asksOne : readCommand resolving = .ok (.resolve read specifier path))
    (asksAll : readCommand transforming = .ok (.transform read' [path]))
    (sameOptions : (optionsOf read).configuration = (optionsOf read').configuration)
    (resolves : (run around resolving).status = .ok 0)
    (transforms : (run around transforming).status = .ok 0) :
    ∃ (resolved : Resolved around read specifier path (run around resolving))
      (transformed : Transformed around read' path (run around transforming)),
      ∀ visited ∈ transformed.visited,
        Replacement.moduleNamed? (Source.ofString transformed.text) visited.node =
            some specifier →
          (resolved.answer.resolution.found.map fun found => (found.entry, found.kind)) =
              (visited.outcome.match?.map fun found => (found.entry, found.kind)) ∧
            (resolved.answer.external.map fun target =>
              (target.space, target.lookupKey specifier)) = visited.outcome.lookup? ∧
            (Alias.NamesOneFile around.process (optionsOf read).working path ∨
                (∀ found ∈ visited.outcome.match?, found.kind = .package) →
              resolved.answer.resolution.specifier = visited.outcome.resolved specifier) := by
  have one : run around resolving = perform around (resolveSpecifier read specifier path) := by
    rw [run, asksOne]
  have all : run around transforming = perform around (transformFiles read' [path]) := by
    rw [run, asksAll]
  rw [one] at resolves ⊢
  rw [all] at transforms ⊢
  obtain ⟨resolved⟩ := exists_resolved resolves
  obtain ⟨transformed⟩ := exists_transformed transforms
  refine ⟨resolved, transformed, ?_⟩
  intro visited known named
  obtain ⟨sameTransform, discovered⟩ := make_eq_ok transformed.made
  obtain ⟨configuration, nodes, loaded, decided⟩ := Provider.exists_decide_of_mem_runSource known
  have tells := Replacement.tells_of_moduleNamed? decided named
  -- The two commands ask for the configuration and for the manifest in different orders and from
  -- different states, but neither answer depends on that.
  have sameWorking : (optionsOf read).working = (optionsOf read').working :=
    congrArg Configuration.Options.working sameOptions
  have sameConfiguration : configuration = resolved.configuration := by
    rw [sameTransform, ← sameOptions, resolved.loaded] at loaded
    exact (Except.ok.inj loaded).symm
  have sameDependencies : transformed.transform.dependencies = resolved.dependencies := by
    rw [← sameWorking, resolved.discovered] at discovered
    exact (Except.ok.inj discovered).symm
  obtain ⟨entries, lookups, specifiers⟩ := answer_of_tells tells
    (Alias.Importer.ofFile around.process path (optionsOf read).working)
  rw [sameConfiguration, sameDependencies, ← resolved.found] at entries lookups specifiers
  refine ⟨entries, lookups, ?_⟩
  rintro (oneFile | noPath)
  · apply specifiers
    left
    rw [resolved.found, filename_of_openFile transformed.opened, sameTransform, ← sameWorking]
    exact Alias.resolve_ofFile_complete inRoot _ path oneFile _ _ specifier
  · exact specifiers (Or.inr noPath)

/-!
### A file beside the working directory
-/

/-- Surroundings in which the configuration lies in a directory below the file. -/
def besideAround : Surroundings where
  store :=
    { items :=
        [(["p"], .directory), (["p", "package.json"], .file "\x7b\x7d".toUTF8),
          (["p", "sub"], .directory),
          (["p", "sub", "c.json"],
            .file "\x7b\"resolve\":\x7b\"alias\":\x7b\"l\":\"./m\"\x7d\x7d\x7d".toUTF8),
          (["p", "a.js"], .file "import 'l'\n".toUTF8)] }
  process := "/p"
  environment := none
  evaluators :=
    { executable := "node"
      evaluate := fun _ _ => .noEvaluator
      importModule := fun _ => .error [] }
  parse := Script.Tree.ofSource

/-- The command line that resolves the specifier for a file. -/
def besideResolving (file : Text) : List Text :=
  ["resolve", "l", "--from", file, "-c", "c.json", "--cwd", "sub"]

/-- The command line that transforms a file. -/
def besideTransforming (file : Text) : List Text :=
  ["transform", file, "-c", "c.json", "--cwd", "sub"]

/-- The options that both command lines give. -/
def besideOptions : Transform.Options := { config := "c.json", working := some "sub" }

/-- The arguments, the specifier and the file of a command that resolves a specifier. -/
def oneSpecifier? : Command → Option (Arguments × Text × Text)
  | .resolve read specifier file => some (read, specifier, file)
  | _ => none

theorem exists_resolve_of_readCommand {arguments : List Text} {options : Transform.Options}
    {specifier file : Text}
    (given : (((readCommand arguments).toOption.bind oneSpecifier?).map fun (read, rest) =>
      (optionsOf read, rest)) = some (options, specifier, file)) :
    ∃ read, readCommand arguments = .ok (.resolve read specifier file) ∧
      optionsOf read = options := by
  obtain ⟨⟨read, rest⟩, one, same⟩ := Option.map_eq_some_iff.1 given
  obtain ⟨command, asked, one⟩ := Option.bind_eq_some_iff.1 one
  cases command with
  | transform => cases one
  | resolve read' specifier' file' =>
      cases one
      cases same
      exact ⟨read, eq_ok_of_toOption asked, rfl⟩

theorem exists_transform_of_readCommand {arguments : List Text} {options : Transform.Options}
    {path : Text}
    (given : (((readCommand arguments).toOption.bind oneFile?).map fun (read, path) =>
      (optionsOf read, path)) = some (options, path)) :
    ∃ read, readCommand arguments = .ok (.transform read [path]) ∧ optionsOf read = options := by
  obtain ⟨⟨read, path'⟩, one, same⟩ := Option.map_eq_some_iff.1 given
  obtain ⟨command, asked, one⟩ := Option.bind_eq_some_iff.1 one
  cases same
  rw [oneFile?_eq_some one] at asked
  exact ⟨read, eq_ok_of_toOption asked, rfl⟩

theorem besideResolving_absolute :
    (((readCommand (besideResolving "/p/a.js")).toOption.bind oneSpecifier?).map
      fun (read, rest) => (optionsOf read, rest)) =
        some (besideOptions, Text.ofString "l", Text.ofString "/p/a.js") := by
  decide +kernel

theorem besideTransforming_absolute :
    (((readCommand (besideTransforming "/p/a.js")).toOption.bind oneFile?).map
      fun (read, path) => (optionsOf read, path)) =
        some (besideOptions, Text.ofString "/p/a.js") := by
  decide +kernel

/-- Whether a node that names a module is decided about in a file. -/
def decidesAbout (around : Surroundings) (options : Transform.Options) (path specifier : Text) :
    Option Bool := do
  let transform ← (Transform.make around options none).toOption
  let (text, filename) ← (Transform.openFile around path).toOption
  return (transform.runSource around text filename {}).visited.any fun visited =>
    Replacement.moduleNamed? (Source.ofString text) visited.node = some specifier

/-- Under its absolute name, the file imports what is printed for it. -/
theorem absolute_name_shows_import :
    ∃ (read read' : Arguments)
      (resolved : Resolved besideAround read "l" "/p/a.js"
        (run besideAround (besideResolving "/p/a.js")))
      (transformed : Transformed besideAround read' "/p/a.js"
        (run besideAround (besideTransforming "/p/a.js"))),
      ∃ visited ∈ transformed.visited,
        Replacement.moduleNamed? (Source.ofString transformed.text) visited.node =
            some (Text.ofString "l") ∧
          resolved.answer.resolution.specifier = visited.outcome.resolved "l" := by
  obtain ⟨read, asksOne, options⟩ := exists_resolve_of_readCommand besideResolving_absolute
  obtain ⟨read', asksAll, options'⟩ := exists_transform_of_readCommand besideTransforming_absolute
  have resolves : (run besideAround (besideResolving "/p/a.js")).status = .ok 0 :=
    eq_ok_of_toOption (by decide +kernel)
  have transforms : (run besideAround (besideTransforming "/p/a.js")).status = .ok 0 :=
    eq_ok_of_toOption (by decide +kernel)
  obtain ⟨resolved, transformed, shows⟩ := resolve_shows_transform (by decide +kernel) asksOne
    asksAll (by rw [options, options']) resolves transforms
  have decides : decidesAbout besideAround besideOptions "/p/a.js" "l" = some true := by
    decide +kernel
  have made := transformed.made
  rw [options'] at made
  rw [decidesAbout, made, transformed.opened] at decides
  obtain ⟨visited, known, named⟩ := List.any_eq_true.1 (Option.some_inj.1 decides)
  have named' : Replacement.moduleNamed? (Source.ofString transformed.text) visited.node =
      some (Text.ofString "l") := by simpa using named
  obtain ⟨_, _, specifiers⟩ := shows visited known named'
  have oneFile : Alias.NamesOneFile besideAround.process (optionsOf read).working
      (Text.ofString "/p/a.js") := Alias.namesOneFile_of_isAbsolute _ _ (by decide)
  exact ⟨read, read', resolved, transformed, visited, known, named', specifiers (Or.inl oneFile)⟩

/-- Under its relative name, the file is taken to lie below the working directory by one command,
and below the directory of the process by the other. -/
theorem relative_name_shows_another_import :
    (run besideAround (besideResolving "a.js")).status.toOption = some 0 ∧
      (run besideAround (besideResolving "a.js")).output = "./m\n" ∧
      (run besideAround (besideTransforming "a.js")).status.toOption = some 0 ∧
      (run besideAround (besideTransforming "a.js")).messages = "a.js:1: l -> './sub/m'\n" := by
  decide +kernel

end ModuleAlias.CommandLine
