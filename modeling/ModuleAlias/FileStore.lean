/-
Module: ModuleAlias.FileStore
Purpose: The files and directories that a run can see, as a value. A place is the list of names on
  the way from the root. Following a path goes step by step through existing directories, so `..`
  after a name that is missing leads nowhere, although the path would be sound lexically.
Imports: ModuleAlias.Path
Main exports: FileStore, FileStore.Place, FileStore.follow, FileStore.isFile, FileStore.readBytes,
  FileStore.readText, FileStore.overwrite
-/
import ModuleAlias.Path

namespace ModuleAlias

namespace FileStore

/-- The names on the way from the root to a file or directory. -/
abbrev Place := List Text

/-- What stands at a place. -/
inductive Item where
  | file (content : ByteArray)
  | directory

/-- Why a path cannot be read. -/
inductive AccessFault where
  | missing
  | notDirectory
  | isDirectory
deriving DecidableEq, Repr

/-- The system's number and words for a fault. -/
def AccessFault.message : AccessFault → String
  | .missing => "[Errno 2] No such file or directory"
  | .notDirectory => "[Errno 20] Not a directory"
  | .isDirectory => "[Errno 21] Is a directory"

end FileStore

/-- The files and directories of a run. The root is always a directory. -/
structure FileStore where
  items : List (FileStore.Place × FileStore.Item)

namespace FileStore

/-- A store with nothing in it but the root. -/
def empty : FileStore := { items := [] }

/-- What stands at a place. -/
def at? (store : FileStore) (place : Place) : Option Item :=
  if place = [] then some .directory
  else (store.items.find? fun item => item.1 == place).map (·.2)

/-- One step from a place along a segment of a path. -/
def step (store : FileStore) (place : Place) (segment : Text) : Except AccessFault Place :=
  match store.at? place with
  | none => .error .missing
  | some (.file _) => .error .notDirectory
  | some .directory =>
    if segment = [] ∨ segment = Path.here then .ok place
    else if segment = Path.up then .ok place.dropLast
    else .ok (place ++ [segment])

/-- The place that a path leads to from the process's directory. All but the last name on the way
must be there. -/
def follow (store : FileStore) (process path : Text) : Except AccessFault Place :=
  let segments := Text.split Path.slash (Path.combine process path)
  (segments.drop 1).foldlM (step store) []

/-- The bytes of the file that a path leads to. -/
def readBytes (store : FileStore) (process path : Text) : Except AccessFault ByteArray := do
  if path = [] then throw .missing
  match store.at? (← store.follow process path) with
  | none => throw .missing
  | some .directory => throw .isDirectory
  | some (.file content) => return content

/-- Whether a path leads to a file. -/
def isFile (store : FileStore) (process path : Text) : Bool :=
  (store.readBytes process path).isOk

/-- Line breaks of every kind as line feeds. -/
def unifyLines : List Char → List Char
  | '\r' :: '\n' :: rest => '\n' :: unifyLines rest
  | '\r' :: rest => '\n' :: unifyLines rest
  | c :: rest => c :: unifyLines rest
  | [] => []

/-- Why the text of a file cannot be read. -/
inductive TextFault where
  | access (fault : AccessFault)
  | notUtf8
deriving DecidableEq, Repr

/-- The text of bytes in UTF-8, with every line break as a line feed. -/
def decodeText (content : ByteArray) : Option String :=
  (String.fromUTF8? content).map fun text => String.ofList (unifyLines text.toList)

/-- The text of the file that a path leads to, with every line break as a line feed. -/
def readText (store : FileStore) (process path : Text) : Except TextFault String :=
  match store.readBytes process path with
  | .error fault => .error (.access fault)
  | .ok content =>
    match decodeText content with
    | some text => .ok text
    | none => .error .notUtf8

/-- Puts an item at a place. -/
def put (store : FileStore) (place : Place) (item : Item) : FileStore where
  items := (place, item) :: store.items.filter fun other => other.1 != place

/-- The place that a path stands for lexically. -/
def placeOf (process path : Text) : Place := (Path.Plain.resolve process path).segments

/-- Writes to the file that a path leads to, as a command does that opens the path for writing: the
directory has to be there, and the path must not end in a slash or lead to a directory. -/
def overwrite (store : FileStore) (process path : Text) (content : ByteArray) :
    Except AccessFault FileStore := do
  if path = [] then throw .missing
  if path.getLast? = some Path.slash then
    let _ ← store.follow process (Path.parent path)
    throw .isDirectory
  let place ← store.follow process path
  match store.at? place with
  | some .directory => throw .isDirectory
  | _ => return store.put place (.file content)

end FileStore

end ModuleAlias
