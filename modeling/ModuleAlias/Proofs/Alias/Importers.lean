/-
Module: ModuleAlias.Proofs.Alias.Importers
Purpose: What a resolution takes from the importing file: the names of its directory. A file that is
  read by a relative path lies below the directory of the process, but one that is only named by it
  is taken to lie below the working directory.
Imports: ModuleAlias.Proofs.Alias.PathTargets, ModuleAlias.Proofs.Path.PlainPaths
Main exports: Alias.matchWith_of_package, Alias.NamesOneFile, Alias.resolve_ofFile_complete
-/
import ModuleAlias.Proofs.Alias.PathTargets
import ModuleAlias.Proofs.Path.PlainPaths

namespace ModuleAlias

namespace Path

/-- A path is completed by reading it from inside the process's directory. -/
theorem complete_eq_normalize_combine (process path : Text) :
    complete process path = normalize (combine process path) := by
  rw [complete]
  split
  · rename_i itself
    rw [combine, if_pos itself]
  · rfl

theorem isAbsolute_complete {process : Text} (inRoot : isAbsolute process = true) (path : Text) :
    isAbsolute (complete process path) = true := by
  rw [complete_eq_normalize_combine]
  exact isAbsolute_normalize (isAbsolute_combine path inRoot)

theorem names_complete {process : Text} (inRoot : isAbsolute process = true) (path : Text) :
    names (complete process path) = names (combine process path) := by
  rw [complete_eq_normalize_combine, names_normalize (isAbsolute_combine path inRoot)]

end Path

namespace Alias

/-!
### What a resolution takes from the importing file
-/

section
variable {importer other : Importer} (table : Table) (dependencies : Dependencies)
  (specifier : Text)

/-- A resolution depends on the importing file only through the names of its directory. -/
theorem resolve_of_names_base_eq (absoluteBase : Path.isAbsolute importer.base = true)
    (absoluteOther : Path.isAbsolute other.base = true)
    (absoluteWorking : Path.isAbsolute importer.working = true)
    (sameWorking : importer.working = other.working)
    (sameNames : Path.names importer.base = Path.names other.base) :
    resolve table dependencies specifier importer =
      resolve table dependencies specifier other := by
  have sameTarget : ∀ target, relativeTarget target importer = relativeTarget target other := by
    intro target
    rw [relativeTarget_eq absoluteBase absoluteWorking,
      relativeTarget_eq absoluteOther (sameWorking ▸ absoluteWorking), sameNames, sameWorking]
  simp only [resolve, matchWith, sameTarget]

/-- The entry that matches, and what its target stands for, do not depend on the importing file. -/
@[simp] theorem matchWith_entry (entry : Entry) (importer : Importer) :
    (matchWith dependencies entry specifier importer).entry = entry := by
  rw [matchWith]
  split
  · rfl
  · rfl

@[simp] theorem matchWith_kind (entry : Entry) (importer : Importer) :
    (matchWith dependencies entry specifier importer).kind =
      classify dependencies entry.target := by
  rw [matchWith]
  split
  · rfl
  · rfl

theorem resolve_of_find_none (unmatched : table.find specifier = none) (importer : Importer) :
    resolve table dependencies specifier importer = { requested := specifier, found := none } := by
  rw [resolve, unmatched, Option.map_none]

theorem resolve_of_find_some {entry : Entry} (applies : table.find specifier = some entry)
    (importer : Importer) :
    resolve table dependencies specifier importer =
      { requested := specifier
        found := some (matchWith dependencies entry specifier importer) } := by
  rw [resolve, applies, Option.map_some]

/-- A target that stands for a package is written alike in every file. -/
theorem matchWith_of_package {entry : Entry}
    (package : classify dependencies entry.target = .package) (importer other : Importer) :
    matchWith dependencies entry specifier importer =
      matchWith dependencies entry specifier other := by
  simp only [matchWith, package]

end

/-!
### Two readings of a file's name
-/

/-- A file's name leads to the same file from the working directory as from the directory of the
process. -/
def NamesOneFile (process : Text) (working : Option Text) (filename : Text) : Prop :=
  Path.names (Path.combine (Importer.directory process working) filename) =
    Path.names (Path.combine process filename)

instance (process : Text) (working : Option Text) (filename : Text) :
    Decidable (NamesOneFile process working filename) :=
  inferInstanceAs (Decidable (_ = _))

theorem namesOneFile_of_isAbsolute (process : Text) (working : Option Text) {filename : Text}
    (absolute : Path.isAbsolute filename = true) : NamesOneFile process working filename := by
  rw [NamesOneFile, Path.combine, Path.combine, if_pos absolute, if_pos absolute]

section
variable {process : Text} (inRoot : Path.isAbsolute process = true) (working : Option Text)
  (filename : Text)

include inRoot

theorem Importer.isAbsolute_directory : Path.isAbsolute (directory process working) = true := by
  unfold directory
  split
  · exact Path.isAbsolute_complete inRoot process
  · exact Path.isAbsolute_complete inRoot process
  · exact Path.isAbsolute_complete inRoot _

theorem Importer.isAbsolute_base :
    Path.isAbsolute (Importer.ofFile process filename working).base = true :=
  Path.isAbsolute_parent (Path.isAbsolute_normalize
    (Path.isAbsolute_combine filename (isAbsolute_directory inRoot working)))

/-- A file that is only named is taken to lie below the working directory. -/
theorem names_base_ofFile :
    Path.names (Importer.ofFile process filename working).base =
      (Path.names (Path.combine (Importer.directory process working) filename)).dropLast :=
  Path.names_parent_normalize
    (Path.isAbsolute_combine filename (Importer.isAbsolute_directory inRoot working))

/-- A file that is read lies below the directory of the process. -/
theorem names_base_of_complete :
    Path.names (Importer.ofFile process
        (Path.complete process (Path.Plain.ofText filename).toText) working).base =
      (Path.names (Path.combine process filename)).dropLast := by
  have known := Path.isAbsolute_complete inRoot (Path.Plain.ofText filename).toText
  rw [names_base_ofFile inRoot, Path.combine, if_pos known, Path.names_complete inRoot,
    Path.names_eq_of_significant_eq (Path.isAbsolute_combine _ inRoot)
      (Path.isAbsolute_combine _ inRoot) (Path.significant_combine_toText filename inRoot)]

/-- A file that is named and one that is read under the same name resolve everything alike, if the
name leads to one file. -/
theorem resolve_ofFile_complete (oneFile : NamesOneFile process working filename) (table : Table)
    (dependencies : Dependencies) (specifier : Text) :
    resolve table dependencies specifier (Importer.ofFile process filename working) =
      resolve table dependencies specifier (Importer.ofFile process
        (Path.complete process (Path.Plain.ofText filename).toText) working) := by
  apply resolve_of_names_base_eq
  · exact Importer.isAbsolute_base inRoot working filename
  · exact Importer.isAbsolute_base inRoot working _
  · exact Importer.isAbsolute_directory inRoot working
  · rfl
  · rw [names_base_ofFile inRoot, names_base_of_complete inRoot, oneFile]

end

end Alias

end ModuleAlias
