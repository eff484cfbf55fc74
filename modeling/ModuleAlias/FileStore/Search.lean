/-
Module: ModuleAlias.FileStore.Search
Purpose: Looks for a file in a directory and in the directories above it, the nearest first.
Imports: ModuleAlias.FileStore
Main exports: FileStore.startDirectory, FileStore.searchPaths, FileStore.searchUp
-/
import ModuleAlias.FileStore

namespace ModuleAlias.FileStore

/-- The directory that a search starts from: a named one, or else the one of the process. -/
def startDirectory (process : Text) (start : Option Text) : Path.Plain :=
  match start with
  | some (c :: cs) => Path.Plain.resolve process (c :: cs)
  | _ => Path.Plain.resolve process process

/-- The paths that a name may stand for in a directory or in one above it, the nearest first. An
absolute name stands for itself. -/
def searchPaths (process name : Text) (start : Option Text) : List Path.Plain :=
  let sought := Path.Plain.ofText name
  if Path.isAbsolute name then [sought]
  else (startDirectory process start).ancestors.map fun directory => directory.combine sought

/-- The first file that a name leads to from a directory or from one above it. -/
def searchUp (store : FileStore) (process name : Text) (start : Option Text) :
    Option Path.Plain :=
  (searchPaths process name start).find? fun path => store.isFile process path.toText

end ModuleAlias.FileStore
