/-
Module: ModuleAlias.Alias.Resolution
Purpose: Resolves a specifier through an alias table. The target of the entry that matches stands
  for a package when the project declares a package of that name, and for a path otherwise. A
  package keeps its name; a path is written from the directory of the importing file, so that the
  result needs no table. What follows the alias in the specifier follows the result unchanged.
Imports: ModuleAlias.Path, ModuleAlias.Alias.Table, ModuleAlias.Dependencies
Main exports: Alias.Importer, Alias.TargetKind, Alias.classify, Alias.relativeTarget,
  Alias.Resolution, Alias.resolve
-/
import ModuleAlias.Path
import ModuleAlias.Alias.Table
import ModuleAlias.Dependencies

namespace ModuleAlias.Alias

/-- The directories that a specifier is resolved against: the one of the importing file, the one
that relative targets start from, and the one of the process, which completes the other two when
they are not absolute. -/
structure Importer where
  base : Text
  working : Text
  process : Text
deriving DecidableEq, Repr

namespace Importer

/-- A directory that may be left out or empty, as an absolute path. -/
def directory (process : Text) (named : Option Text) : Text :=
  match named with
  | none => Path.complete process process
  | some [] => Path.complete process process
  | some path => Path.complete process path

/-- The directories for a file, which is named from inside the working directory. -/
def ofFile (process filename : Text) (working : Option Text) : Importer :=
  let working := directory process working
  { base := Path.parent (Path.normalize (Path.combine working filename)), working, process }

end Importer

/-- What a target stands for. -/
inductive TargetKind where
  | package
  | absolute
  | relative
deriving DecidableEq, Repr

/-- The word for a kind of target. -/
def TargetKind.word : TargetKind → String
  | .package => "package"
  | .absolute => "absolute"
  | .relative => "relative"

/-- The kind of a target: declared packages come before paths. -/
def classify (dependencies : Dependencies) (target : Text) : TargetKind :=
  if dependencies.contains target then .package
  else if Path.isAbsolute target then .absolute
  else .relative

/-- A text with its backslashes turned into slashes. -/
def slashed (path : Text) : Text :=
  path.map fun c => if c = .scalar '\\' then Path.slash else c

/-- The path from the directory of the importing file to a target. -/
def relativeTarget (target : Text) (importer : Importer) : Text :=
  let absolute := Path.normalize (Path.combine importer.working target)
  slashed (Path.between importer.process absolute importer.base)

/-- Marks a path as relative when it begins neither with a full stop nor with a slash. -/
def markRelative (path : Text) : Text :=
  match path with
  | c :: _ => if c = Path.dot ∨ c = Path.slash then path else Path.dot :: Path.slash :: path
  | [] => [Path.dot, Path.slash]

/-- A match of a specifier: the entry, what its target stands for, and the specifier to write. -/
structure Match where
  entry : Entry
  kind : TargetKind
  specifier : Text
deriving DecidableEq, Repr

/-- The outcome for a specifier: the match, if an entry applies. -/
structure Resolution where
  requested : Text
  found : Option Match
deriving DecidableEq, Repr

namespace Resolution

/-- The specifier to write: the requested one when no entry applies. -/
def specifier (resolution : Resolution) : Text :=
  match resolution.found with
  | some found => found.specifier
  | none => resolution.requested

/-- Whether an entry applies. -/
def matched (resolution : Resolution) : Bool := resolution.found.isSome

/-- Whether the specifier to write differs from the requested one. -/
def changed (resolution : Resolution) : Bool := resolution.specifier != resolution.requested

end Resolution

/-- The module that a match stands for once it is external: a package by its bare name, anything
else by the specifier to write. -/
def Match.moduleName (found : Match) : Text :=
  match found.kind with
  | .package => found.entry.target
  | _ => found.specifier

/-- The match of a specifier with an entry. -/
def matchWith (dependencies : Dependencies) (entry : Entry) (specifier : Text)
    (importer : Importer) : Match :=
  let rest := entry.remainder specifier
  let kind := classify dependencies entry.target
  match kind with
  | .package => { entry, kind, specifier := entry.target ++ rest }
  | _ => { entry, kind, specifier := markRelative (relativeTarget entry.target importer ++ rest) }

/-- Resolves a specifier through a table. -/
def resolve (table : Table) (dependencies : Dependencies) (specifier : Text)
    (importer : Importer) : Resolution where
  requested := specifier
  found := (table.find specifier).map fun entry => matchWith dependencies entry specifier importer

end ModuleAlias.Alias
