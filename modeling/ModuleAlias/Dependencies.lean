/-
Module: ModuleAlias.Dependencies
Purpose: The packages that a project declares. Their names come from four sections of the project's
  manifest; a section that is not an object declares none.
Imports: ModuleAlias.Value
Main exports: Dependencies, Dependencies.ofNames, Dependencies.contains, Dependencies.sorted,
  Dependencies.ofManifest?
-/
import ModuleAlias.Value

namespace ModuleAlias

/-- The names of the packages that a project declares, each once, and the path of the manifest they
were read from. -/
structure Dependencies where
  names : List Text
  manifest : Option Text := none
deriving DecidableEq, Repr

namespace Dependencies

/-- The set of the given names. -/
def ofNames (names : List Text) (manifest : Option Text := none) : Dependencies :=
  { names := names.foldr (fun name known =>
      if known.contains name then known else name :: known) [],
    manifest }

/-- No packages. -/
def none : Dependencies := { names := [] }

/-- Whether a package is declared. -/
def contains (dependencies : Dependencies) (name : Text) : Bool := dependencies.names.contains name

/-- The names in the order of their code points. -/
def sorted (dependencies : Dependencies) : List Text :=
  dependencies.names.mergeSort fun a b => !Text.lessThan b a

/-- The sections of a manifest that declare packages. -/
def sections : List Text :=
  ["dependencies", "peerDependencies", "devDependencies", "optionalDependencies"].map Text.ofString

/-- The names that one section of a manifest declares. -/
def sectionNames (manifest : Value) (name : Text) : List Text :=
  match manifest.member? name with
  | some (.object members) => members.map (·.1)
  | _ => []

/-- The packages that a manifest declares; nothing when it is not an object. -/
def ofManifest? (path : Text) : Value → Option Dependencies
  | .object members =>
    let names := sections.flatMap (sectionNames (.object members))
    some (ofNames names (some path))
  | _ => Option.none

end Dependencies

end ModuleAlias
