/-
Module: ModuleAlias.Main
Purpose: The program. It reads the files that a command line may look at, runs the command line on
  them, prints what it says and writes the files that it changes. Configurations that are programs
  themselves are not evaluated; a run that needs one says so.
Imports: ModuleAlias.CommandLine.Snapshot, ModuleAlias.Script.Tree
Main exports: main
-/
import ModuleAlias.CommandLine.Snapshot
import ModuleAlias.Script.Tree

namespace ModuleAlias.Program

/-- A text as a string; what has no form in UTF-8 is replaced. -/
def shown (text : Text) : String :=
  String.ofList (text.map fun codePoint => codePoint.toChar?.getD '\ufffd')

/-- What stands at a path: a file that can be read, a directory, which can not, or nothing. -/
def itemAt (path : Text) : IO (Option FileStore.Item) := do
  try
    return some (.file (← IO.FS.readBinFile (shown path)))
  catch failure =>
    match failure with
    | .noFileOrDirectory _ _ _ => return none
    | _ => return some .directory

/-- Adds what stands at a path to a store. -/
def readInto (process : Text) (store : FileStore) (path : Text) : IO FileStore := do
  match ← itemAt path with
  | some item => return store.put (FileStore.placeOf process path) item
  | none => return store

/-- The files and directories on the way to the given paths. -/
def readStore (process : Text) (paths : List Text) : IO FileStore :=
  (paths.flatMap (CommandLine.waysTo process)).foldlM (readInto process) .empty

/-- Writes a file of a store. -/
def writeBack (place : FileStore.Place) (content : ByteArray) : IO Unit :=
  IO.FS.writeBinFile (shown (Path.slash :: Text.join Path.slash place)) content

/-- The words for a fault that is not reported in the words of the library. -/
def faultText : Fault → String
  | .shape => "a part of the configuration has the wrong form"
  | .escapeTooLarge => "a numeric escape is too large"
  | .notEncodable => "a replacement holds half of a surrogate pair"
  | .notUtf8 => "a file is not in UTF-8"
  | .integerTooLong => "an integer has too many digits"
  | .access fault => fault.message
  | .configuration _ _ => "the configuration cannot be used"
  | .manifest _ _ => "the manifest cannot be used"

/-- Ends a run: the status, or the words for the fault that ended it. -/
def finish (status : Except Fault Nat) : IO UInt32 := do
  match status with
  | .ok code => return code.toUInt32
  | .error fault =>
    IO.eprintln (faultText fault)
    return 1

/-- Runs a command line in the file system. -/
def runCommandLine (arguments : List String) : IO UInt32 := do
  let texts := arguments.map Text.ofString
  let process := Text.ofString (toString (← IO.currentDir))
  let environment := (← IO.getEnv "NODE_ENV").map Text.ofString
  let store ← readStore process (CommandLine.consultedBy process texts)
  let evaluators : Evaluators :=
    { executable := Text.ofString "node"
      evaluate := fun _ _ => .noEvaluator
      importModule := fun _ => .error (Text.ofString "not importable") }
  let around : Surroundings :=
    { store, process, environment, evaluators, parse := Script.Tree.ofSource }
  let outcome := CommandLine.run around texts
  for (place, content) in CommandLine.changes store outcome.store do
    writeBack place content
  IO.print (shown outcome.output)
  IO.eprint (shown outcome.messages)
  finish outcome.status

end ModuleAlias.Program

/-- The program. -/
def main (arguments : List String) : IO UInt32 :=
  ModuleAlias.Program.runCommandLine arguments
