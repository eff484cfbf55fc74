/-
Module: ModuleAlias.CommandLine.Snapshot
Purpose: The part of a file system that a command line concerns. Which paths a command looks at is
  known before it runs, so they are read beforehand into a store of files; afterwards the files that
  differ are written back.
Imports: ModuleAlias.CommandLine.Run
Main exports: CommandLine.consulted, CommandLine.waysTo, CommandLine.changes
-/
import ModuleAlias.CommandLine.Run

namespace ModuleAlias.CommandLine

/-- The paths that a command may look at: its files, and every path at which its configuration or
the manifest of the project may be. -/
def consulted (process : Text) (command : Command) : List Text :=
  let (read, files) := match command with
    | .transform read files => (read, files)
    | .resolve read _ _ => (read, [])
  let options := optionsOf read
  let sought := [Manifest.fileName, options.config].flatMap fun name =>
    FileStore.searchPaths process name options.working
  files ++ sought.map (·.toText)

/-- The paths that a command line may look at; none when no command is run. -/
def consultedBy (process : Text) (arguments : List Text) : List Text :=
  match readCommand arguments with
  | .ok command => consulted process command
  | .error _ => []

/-- The paths that lead step by step to a path, the shortest first and the path itself last. -/
def waysTo (process path : Text) : List Text :=
  let whole := Path.Plain.ofText (Path.combine process path)
  whole.ancestors.reverse.map (·.toText)

/-- The files of a store that another store does not have, or has with other bytes. -/
def changes (before after : FileStore) : List (FileStore.Place × ByteArray) :=
  after.items.filterMap fun (place, item) =>
    match item, before.at? place with
    | .file content, some (.file known) =>
      if content.data = known.data then none else some (place, content)
    | .file content, _ => some (place, content)
    | .directory, _ => none

end ModuleAlias.CommandLine
