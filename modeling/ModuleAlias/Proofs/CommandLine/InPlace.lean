/-
Module: ModuleAlias.Proofs.CommandLine.InPlace
Purpose: What the command for transforming a file in place leaves in the file. The text that is
  written is the text that was read with the reported ranges replaced; but reading turns every line
  break into a line feed, so the bytes around the replacements stay exactly when they hold no
  carriage return.
Imports: ModuleAlias.Proofs.CommandLine.Sessions, ModuleAlias.Proofs.FileStore.EditedFiles,
  ModuleAlias.Proofs.FileStore.Following, ModuleAlias.Proofs.Transform.Splicing
Main exports: CommandLine.fileEdits, CommandLine.transformFile_eq_ok, CommandLine.InPlace,
  CommandLine.transform_in_place
-/
import ModuleAlias.Proofs.CommandLine.Sessions
import ModuleAlias.Proofs.FileStore.EditedFiles
import ModuleAlias.Proofs.FileStore.Following
import ModuleAlias.Proofs.Transform.Splicing

namespace ModuleAlias.CommandLine

open Session FileStore

/-!
### Reading a file
-/

/-- The text of a file is made up of the readings of its characters. -/
theorem eq_of_decodeText {content : ByteArray} {text : String}
    (decoded : decodeText content = some text) :
    ∃ file, String.fromUTF8? content = some file ∧
      content = fileBytes (readings file.toList) ∧
      text = String.ofList ((readings file.toList).map Reading.char) := by
  obtain ⟨file, read, same⟩ := Option.map_eq_some_iff.1 decoded
  refine ⟨file, read, ?_, ?_⟩
  · rw [fileBytes, flatMap_source_readings, bytesOf, String.ofList_toList]
    exact (Text.toUTF8_of_fromUTF8? read).symm
  · rw [map_char_readings]
    exact same.symm

theorem openFile_eq_ok {around : Surroundings} {path filename : Text} {text : String}
    (opened : Transform.openFile around path = .ok (text, filename)) :
    ∃ content,
      around.store.readBytes around.process (Path.Plain.ofText path).toText = .ok content ∧
      decodeText content = some text := by
  unfold Transform.openFile readText at opened
  cases read : around.store.readBytes around.process (Path.Plain.ofText path).toText with
  | error fault => simp [read] at opened
  | ok content =>
      cases decoded : decodeText content with
      | none => simp [read, decoded] at opened
      | some text' =>
          simp only [read, decoded, Except.ok.injEq, Prod.mk.injEq] at opened
          exact ⟨content, rfl, opened.1 ▸ decoded⟩

/-!
### Transforming one file
-/

section
variable {verbose several : Bool} {transform : Transform} {path : Text} {progress next : Progress}

/-- A file whose transform fails, or cannot be written, stays as it is, as do all others. -/
theorem around_of_transformFile_error {fault : Fault}
    (failed : (transformFile verbose true several transform path).outcome progress =
      (.error fault, next)) : next.around = progress.around := by
  rw [outcome_transformFile_inPlace] at failed
  split at failed
  · cases failed
    rfl
  · dsimp only at failed
    split at failed
    · cases failed
      rfl
    · split at failed
      · rw [outcome_write] at failed
        split at failed
        · cases failed
        · cases failed
          rfl
      · cases failed

/-- A file is transformed in place by writing the code of the result, if anything is replaced. -/
theorem transformFile_eq_ok
    (done : (transformFile verbose true several transform path).outcome progress =
      (.ok (), next)) :
    ∃ result, (transform.runFile progress.around path progress.provider).result = .ok result ∧
      (∃ earlier, next.messages =
        earlier ++ result.replacements.flatMap (replacementMessage path)) ∧
      (result.replacements = [] ∧ next.around = progress.around ∨
        result.replacements ≠ [] ∧
          progress.around.store.overwrite progress.around.process path result.code.toUTF8 =
            .ok next.around.store) := by
  rw [outcome_transformFile_inPlace] at done
  split at done
  · cases done
  · rename_i text filename opened
    dsimp only at done
    split at done
    · cases done
    · rename_i result ran
      have ran' : (transform.runFile progress.around path progress.provider).result =
          .ok result := by
        rw [Transform.runFile, opened]
        exact ran
      refine ⟨result, ran', ?_⟩
      split at done
      · rename_i changed
        have filled : result.replacements ≠ [] := by
          intro empty
          simp [Transform.Result.changed, empty] at changed
        rw [outcome_write] at done
        split at done
        · rename_i store written
          cases done
          exact ⟨⟨_, rfl⟩, Or.inr ⟨filled, written⟩⟩
        · cases done
      · rename_i unchanged
        have empty : result.replacements = [] := by
          simpa [Transform.Result.changed] using unchanged
        cases done
        exact ⟨⟨_, rfl⟩, Or.inl ⟨empty, rfl⟩⟩

end

/-!
### Runs over one file
-/

section
variable {around : Surroundings} {read : Arguments} {path : Text} {next : Progress}
  (writes : read.has .write = true)

include writes

/-- A run over one file that fails leaves all files as they were. -/
theorem around_of_transformFiles_error {fault : Fault}
    (failed : (transformFiles read [path]).outcome { around } = (.error fault, next)) :
    next.around = around := by
  rw [outcome_transformFiles_one, writes] at failed
  split at failed
  · cases failed
    rfl
  · rw [around_of_transformFile_error failed]
    rfl

/-- A run over one file that does not fail makes the transform and transforms the file. -/
theorem transformFiles_eq_ok
    (done : (transformFiles read [path]).outcome { around } = (.ok (), next)) :
    ∃ transform result, Transform.make around (optionsOf read) none = .ok transform ∧
      (transform.runFile around path {}).result = .ok result ∧
      (∃ earlier, next.messages =
        earlier ++ result.replacements.flatMap (replacementMessage path)) ∧
      (result.replacements = [] ∧ next.around = around ∨
        result.replacements ≠ [] ∧
          around.store.overwrite around.process path result.code.toUTF8 =
            .ok next.around.store) := by
  rw [outcome_transformFiles_one, writes] at done
  split at done
  · cases done
  · rename_i transform made
    obtain ⟨result, ran, reported, written⟩ := transformFile_eq_ok done
    exact ⟨transform, result, made, ran, reported, written⟩

end

/-!
### Files in place
-/

/-- Replacements in the text of a file, as edits of the file. -/
def fileEdits (file : String) (replacements : List Replacement) : List Edit :=
  (replacements.map Transform.editOf).map (Edit.inFile (readings file.toList))

/-- The result of a transform of a file is its text with the reported ranges replaced. It is the file
with these ranges replaced exactly if no carriage return stands outside them. -/
theorem code_iff_of_runFile {around : Surroundings} {transform : Transform} {path : Text}
    {result : Transform.Result} {provider : Provider}
    (ran : (transform.runFile around path provider).result = .ok result) :
    ∃ content file text,
      around.store.readBytes around.process (Path.Plain.ofText path).toText = .ok content ∧
      String.fromUTF8? content = some file ∧
      decodeText content = some text ∧
      Edit.stitched? text.toUTF8 0 text.utf8ByteSize
        (result.replacements.map Transform.editOf) = some result.code.toUTF8 ∧
      (Edit.stitched? content 0 content.size (fileEdits file result.replacements) =
          some result.code.toUTF8 ↔
        ∀ piece ∈ Edit.kept content 0 content.size (fileEdits file result.replacements),
          carriageReturn ∉ piece.data) := by
  unfold Transform.runFile at ran
  split at ran
  · cases ran
  · rename_i text filename opened
    obtain ⟨content, read, decoded⟩ := openFile_eq_ok opened
    obtain ⟨file, read', bytes, same⟩ := eq_of_decodeText decoded
    obtain ⟨fit, stitched⟩ := Transform.result_of_runSource ran
    refine ⟨content, file, text, read, read', decoded, stitched, ?_⟩
    subst same
    rw [bytes]
    exact Edit.stitched?_inFile_iff fit stitched

/-- After a run that replaced nothing a file holds what it held, else it holds the code of the result.
Every other file is as it was. -/
theorem exists_written {around after : Surroundings} {path : Text} {content code : ByteArray}
    {replacements : List Replacement} (inRoot : Path.isAbsolute around.process = true)
    (held : around.store.readBytes around.process (Path.Plain.ofText path).toText = .ok content)
    (wrote : replacements = [] ∧ after = around ∨
      replacements ≠ [] ∧
        around.store.overwrite around.process path code = .ok after.store) :
    ∃ written,
      after.store.readBytes around.process (Path.Plain.ofText path).toText = .ok written ∧
      (∀ place,
        around.store.follow around.process (Path.Plain.ofText path).toText ≠ .ok place →
          after.store.at? place = around.store.at? place) ∧
      (replacements = [] → written = content) ∧
      (replacements ≠ [] → written = code) := by
  rcases wrote with ⟨empty, same⟩ | ⟨filled, overwritten⟩
  · subst same
    refine ⟨content, held, ?_, ?_, ?_⟩
    · intro place _
      rfl
    · intro _
      rfl
    · intro filled
      exact absurd empty filled
  · obtain ⟨holds, others⟩ := readBytes_of_overwrite inRoot held overwritten
    refine ⟨code, holds, others, ?_, ?_⟩
    · intro empty
      exact absurd empty filled
    · intro _
      rfl

/-- What a command finds that transforms one file in place, and what it leaves. -/
structure InPlace (around : Surroundings) (read : Arguments) (path : Text)
    (outcome : Outcome) where
  transform : Transform
  made : Transform.make around (optionsOf read) none = .ok transform
  result : Transform.Result
  ran : (transform.runFile around path {}).result = .ok result
  reported : ∃ earlier, outcome.messages =
    earlier ++ result.replacements.flatMap (replacementMessage path)
  /-- The bytes of the file before the command. -/
  content : ByteArray
  held : around.store.readBytes around.process (Path.Plain.ofText path).toText = .ok content
  /-- The characters of the file before the command. -/
  file : String
  characters : String.fromUTF8? content = some file
  /-- The text that is read from the file. -/
  text : String
  decoded : decodeText content = some text
  /-- The bytes of the file after the command. -/
  written : ByteArray
  holds : outcome.store.readBytes around.process (Path.Plain.ofText path).toText = .ok written
  others : ∀ place,
    around.store.follow around.process (Path.Plain.ofText path).toText ≠ .ok place →
      outcome.store.at? place = around.store.at? place

namespace InPlace

variable {around : Surroundings} {read : Arguments} {path : Text} {outcome : Outcome}

/-- The reported replacements, as edits of the file. -/
def edits (run : InPlace around read path outcome) : List Edit :=
  fileEdits run.file run.result.replacements

/-- Outside the reported ranges, the file is byte for byte what it was. -/
def KeepsRest (run : InPlace around read path outcome) : Prop :=
  Edit.stitched? run.content 0 run.content.size run.edits = some run.written

/-- No carriage return stands outside the reported ranges. -/
def KeepsNoReturn (run : InPlace around read path outcome) : Prop :=
  ∀ piece ∈ Edit.kept run.content 0 run.content.size run.edits, carriageReturn ∉ piece.data

end InPlace

/-- When a process, whose directory is always an absolute one, transforms one file in place, a
failure leaves all files as they were. Without one, every other file is as it was, and the file holds
its text with the reported ranges replaced. But outside these ranges it is what it was, byte for byte,
exactly if nothing is replaced or no carriage return stands there. -/
theorem transform_in_place {around : Surroundings} {arguments : List Text} {read : Arguments}
    {path : Text} (inRoot : Path.isAbsolute around.process = true)
    (asked : readCommand arguments = .ok (.transform read [path]))
    (writes : read.has .write = true) :
    let outcome := run around arguments
    (outcome.status ≠ .ok 0 → outcome.store = around.store) ∧
      (outcome.status = .ok 0 → ∃ run : InPlace around read path outcome,
        (run.result.replacements = [] → run.written = run.content) ∧
        (run.result.replacements ≠ [] →
          Edit.stitched? run.text.toUTF8 0 run.text.utf8ByteSize
            (run.result.replacements.map Transform.editOf) = some run.written) ∧
        (run.KeepsRest ↔ run.result.replacements = [] ∨ run.KeepsNoReturn)) := by
  intro outcome
  have performed : outcome = perform around (transformFiles read [path]) := by
    simp only [outcome, run, asked]
  rw [performed]
  constructor
  · intro failed
    rw [store_perform]
    cases came : (transformFiles read [path]).outcome { around } with
    | mk came' next =>
        cases came' with
        | error fault => rw [around_of_transformFiles_error writes came]
        | ok done => exact absurd (status_perform came) failed
  · intro done
    obtain ⟨next, came, messages⟩ := perform_eq_ok done
    obtain ⟨transform, result, made, ran, reported, wrote⟩ := transformFiles_eq_ok writes came
    obtain ⟨content, file, text, held, characters, decoded, stitched, law⟩ :=
      code_iff_of_runFile ran
    have store : (perform around (transformFiles read [path])).store = next.around.store := by
      rw [store_perform, came]
    rw [← messages] at reported
    obtain ⟨written, holds, others, unchanged, replaced⟩ := exists_written inRoot held wrote
    rw [← store] at holds others
    have ofText : result.replacements ≠ [] →
        Edit.stitched? text.toUTF8 0 text.utf8ByteSize
          (result.replacements.map Transform.editOf) = some written := by
      intro filled
      rw [replaced filled]
      exact stitched
    have ofFile : Edit.stitched? content 0 content.size (fileEdits file result.replacements) =
          some written ↔
        result.replacements = [] ∨
          ∀ piece ∈ Edit.kept content 0 content.size (fileEdits file result.replacements),
            carriageReturn ∉ piece.data := by
      by_cases empty : result.replacements = []
      · simp [empty, unchanged empty, fileEdits, Edit.stitched?]
      · rw [or_iff_right empty, replaced empty]
        exact law
    exact ⟨{ transform, made, result, ran, reported, content, held, file, characters, text,
             decoded, written, holds, others }, unchanged, ofText, ofFile⟩

/-!
### A file whose lines end in two characters
-/

/-- The text of a file with a carriage return before each line feed. -/
def returnsText : String := "import 'l'\r\n"

/-- The surroundings of a file with carriage returns, whose one import has an alias. -/
def returnsAround : Surroundings where
  store :=
    { items :=
        [(["p"], .directory), (["p", "package.json"], .file "\x7b\x7d".toUTF8),
          (["p", "c.json"],
            .file "\x7b\"resolve\":\x7b\"alias\":\x7b\"l\":\"./m\"\x7d\x7d\x7d".toUTF8),
          (["p", "a.js"], .file returnsText.toUTF8)] }
  process := "/p"
  environment := none
  evaluators :=
    { executable := "node"
      evaluate := fun _ _ => .noEvaluator
      importModule := fun _ => .error [] }
  parse := Script.Tree.ofSource

/-- The command that transforms the file in place. -/
def returnsArguments : List Text := ["transform", "a.js", "-c", "c.json", "--write"]

/-- The arguments and the file of a command that transforms one file. -/
def oneFile? : Command → Option (Arguments × Text)
  | .transform read [path] => some (read, path)
  | _ => none

/-- What the command line says. -/
def returnsRead : Arguments :=
  (((readCommand returnsArguments).toOption.bind oneFile?).map Prod.fst).getD {}

/-- The replacements that are reported for the file. -/
def returnsReplaced : Option (List Replacement) := do
  let transform ← (Transform.make returnsAround (optionsOf returnsRead) none).toOption
  let result ← (transform.runFile returnsAround "a.js" {}).result.toOption
  return result.replacements

theorem oneFile?_eq_some {command : Command} {read : Arguments} {path : Text}
    (one : oneFile? command = some (read, path)) : command = .transform read [path] := by
  unfold oneFile? at one
  split at one
  · cases one
    rfl
  · cases one

theorem readCommand_returnsArguments :
    readCommand returnsArguments = .ok (.transform returnsRead ["a.js"]) := by
  have file : ((readCommand returnsArguments).toOption.bind oneFile?).map Prod.snd =
      some (Text.ofString "a.js") := by decide +kernel
  unfold returnsRead
  cases asked : readCommand returnsArguments with
  | error ending => simp [asked, Except.toOption] at file
  | ok command =>
      cases one : oneFile? command with
      | none => simp [asked, one, Except.toOption] at file
      | some given =>
          obtain ⟨read, path⟩ := given
          simp only [asked, one, Except.toOption, Option.bind_some, Option.map_some,
            Option.some_inj] at file ⊢
          rw [oneFile?_eq_some one, file, Option.getD_some]

/-- The command succeeds, but outside the reported range the file is not what it was. -/
theorem returnsArguments_keep_no_rest :
    ∃ run : InPlace returnsAround returnsRead "a.js" (run returnsAround returnsArguments),
      ¬ run.KeepsRest := by
  have succeeds : (run returnsAround returnsArguments).status.toOption = some 0 := by
    decide +kernel
  have done : (run returnsAround returnsArguments).status = .ok 0 := by
    cases status : (run returnsAround returnsArguments).status with
    | error fault => simp [status, Except.toOption] at succeeds
    | ok code => simpa [status, Except.toOption] using succeeds
  obtain ⟨found, _, _, law⟩ :=
    (transform_in_place (by decide +kernel) readCommand_returnsArguments (by decide +kernel)).2 done
  refine ⟨found, ?_⟩
  have replaced : returnsReplaced = some found.result.replacements := by
    simp [returnsReplaced, found.made, found.ran, Except.toOption]
  have characters : some found.file = some returnsText := by
    have read : (returnsAround.store.readBytes returnsAround.process
        (Path.Plain.ofText "a.js").toText).toOption.bind String.fromUTF8? = some returnsText := by
      decide +kernel
    rw [found.held] at read
    exact found.characters.symm.trans read
  have content : found.content = returnsText.toUTF8 := by
    rw [← Option.some_inj.1 characters]
    exact (Text.toUTF8_of_fromUTF8? found.characters).symm
  have outside : (returnsReplaced.map fun replacements =>
      (replacements.isEmpty,
        (Edit.kept returnsText.toUTF8 0 returnsText.toUTF8.size
          (fileEdits returnsText replacements)).any fun piece =>
            piece.data.contains carriageReturn)) = some (false, true) := by
    decide +kernel
  rw [replaced, Option.map_some, Option.some_inj, Prod.mk.injEq] at outside
  intro keeps
  rcases law.1 keeps with empty | free
  · simp [empty] at outside
  · rw [InPlace.KeepsNoReturn, InPlace.edits, content, Option.some_inj.1 characters] at free
    obtain ⟨piece, known, holds⟩ := List.any_eq_true.1 outside.2
    exact free piece known (Array.contains_iff_mem.1 holds)

/-- Only the range of the literal is reported, and the ends of the lines are changed. -/
theorem returnsArguments_change_line_ends :
    (run returnsAround returnsArguments).messages = "a.js:1: l -> './m'\n" ∧
      (returnsAround.store.readBytes "/p" "a.js").toOption.bind String.fromUTF8? =
        some "import 'l'\r\n" ∧
      ((run returnsAround returnsArguments).store.readBytes "/p" "a.js").toOption.bind
        String.fromUTF8? = some "import './m'\n" := by
  decide +kernel

end ModuleAlias.CommandLine
