/-
Module: ModuleAlias.Manifest
Purpose: Finds and reads the manifest of a project, `package.json`, for the packages it declares.
Imports: ModuleAlias.Dependencies, ModuleAlias.Fault, ModuleAlias.FileStore.Search
Main exports: Manifest.read, Manifest.find, Manifest.discover
-/
import ModuleAlias.Dependencies
import ModuleAlias.Fault
import ModuleAlias.FileStore.Search

namespace ModuleAlias.Manifest

/-- The name of a manifest. -/
def fileName : Text := Text.ofString "package.json"

/-- The packages declared by the manifest at a path. -/
def read (store : FileStore) (process path : Text) : Except Fault Dependencies :=
  let path := (Path.Plain.ofText path).toText
  match store.readText process path with
  | .error (.access fault) => .error (.manifest path (.access fault path))
  | .error .notUtf8 => .error .notUtf8
  | .ok text =>
    match Json.read text.toList with
    | .error (.fault fault) => .error (.manifest path (.json fault))
    | .error .longInteger => .error .integerTooLong
    | .ok value =>
      match Dependencies.ofManifest? path value with
      | some dependencies => .ok dependencies
      | none => .error (.manifest path (.notObject value.kindName))

/-- The manifest nearest to a directory, in it or above it. -/
def find (store : FileStore) (process : Text) (start : Option Text) : Option Text :=
  (store.searchUp process fileName start).map (·.toText)

/-- The packages declared by the nearest manifest; none where there is no manifest. -/
def discover (store : FileStore) (process : Text) (start : Option Text) :
    Except Fault Dependencies :=
  match find store process start with
  | none => .ok Dependencies.none
  | some path => read store process path

end ModuleAlias.Manifest
