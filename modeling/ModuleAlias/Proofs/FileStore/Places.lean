/-
Module: ModuleAlias.Proofs.FileStore.Places
Purpose: The places that paths lead to. There are no links, so a path that can be followed leads
  where it leads lexically, and every directory on the way to its place is there. The place can
  therefore be reached by its direct path too, whose segments are all names; and of the absolute
  paths that lead to one place, exactly those without `..` whose root is a single slash are direct.
Imports: Mathlib.Data.List.Induction, ModuleAlias.Proofs.FileStore.Following,
  ModuleAlias.Proofs.Path.Directories
Main exports: FileStore.Moves, FileStore.moves_of_step, FileStore.pathTo,
  FileStore.follow_pathTo, FileStore.resolve_of_follow,
  FileStore.toText_eq_pathTo_iff
-/
import Mathlib.Data.List.Induction
import ModuleAlias.Proofs.FileStore.Following
import ModuleAlias.Proofs.Path.Directories

namespace ModuleAlias.FileStore

variable {store : FileStore}

/-!
### One step
-/

/-- A segment moves from one place to another: nowhere, back to the directory above, or on to a
name. -/
inductive Moves (place : Place) (segment : Text) : Place → Prop where
  | stays (idle : segment = [] ∨ segment = Path.here) : Moves place segment place
  | back (isUp : segment = Path.up) : Moves place segment place.dropLast
  | on (isName : Path.IsName segment) : Moves place segment (place ++ [segment])

section
variable {place next : Place} {segment : Text}

/-- A step begins in a directory. -/
theorem moves_of_step (stepped : step store place segment = .ok next) :
    store.at? place = some .directory ∧ Moves place segment next := by
  unfold step at stepped
  split at stepped
  · cases stepped
  · cases stepped
  · rename_i isDirectory
    refine ⟨isDirectory, ?_⟩
    split at stepped
    · rename_i idle
      cases stepped
      exact .stays idle
    · rename_i leads
      rw [not_or] at leads
      split at stepped
      · rename_i isUp
        cases stepped
        exact .back isUp
      · rename_i notUp
        cases stepped
        exact .on ⟨leads.1, leads.2, notUp⟩

theorem step_of_isName (isDirectory : store.at? place = some .directory)
    (isName : Path.IsName segment) : step store place segment = .ok (place ++ [segment]) := by
  rw [step, isDirectory]
  simp [isName.nonempty, isName.notHere, isName.notUp]

/-- A move changes a list of names as settling changes the stack of the names. -/
theorem Moves.reverse_eq (moves : Moves place segment next)
    (names : ∀ name ∈ place, Path.IsName name) :
    next.reverse = Path.settle true place.reverse segment := by
  cases moves with
  | stays idle =>
      rcases idle with rfl | rfl
      · exact (Path.settle_nil true _).symm
      · exact (Path.settle_here true _).symm
  | on isName => rw [Path.settle_name isName, List.reverse_concat]
  | back isUp =>
      rw [isUp, ← List.tail_reverse]
      cases reversed : place.reverse with
      | nil => exact Path.settle_up_nil.symm
      | cons last above =>
          have member : last ∈ place := List.mem_reverse.1 (reversed ▸ List.mem_cons_self)
          exact (Path.settle_up_cons (names last member) true above).symm

theorem Moves.isName (moves : Moves place segment next)
    (names : ∀ name ∈ place, Path.IsName name) : ∀ name ∈ next, Path.IsName name := by
  intro name known
  cases moves with
  | stays => exact names name known
  | back => exact names name ((List.dropLast_prefix place).subset known)
  | on isName =>
      rcases List.mem_append.1 known with before | here
      · exact names name before
      · exact List.mem_singleton.1 here ▸ isName

/-- What lies above the place that a segment moves to lies above the one that it moves from, or is
that one. -/
theorem Moves.above (moves : Moves place segment next) {above : Place} (begins : above <+: next)
    (different : above ≠ next) : above <+: place := by
  cases moves with
  | stays => exact begins
  | back => exact begins.trans (List.dropLast_prefix place)
  | on =>
      rcases List.prefix_concat_iff.1 begins with same | begins'
      · exact absurd same different
      · exact begins'

end

/-!
### Paths that can be followed
-/

/-- A place of names whose directories on the way are all there. -/
structure Stands (store : FileStore) (place : Place) : Prop where
  isName : ∀ name ∈ place, Path.IsName name
  isDirectory : ∀ above, above <+: place → above ≠ place → store.at? above = some .directory

theorem stands_root (store : FileStore) : store.Stands [] where
  isName _ known := absurd known List.not_mem_nil
  isDirectory _ begins different := absurd (List.prefix_nil.1 begins) different

theorem Stands.step {place next : Place} {segment : Text} (stands : store.Stands place)
    (stepped : FileStore.step store place segment = .ok next) : store.Stands next := by
  obtain ⟨isDirectory, moves⟩ := moves_of_step stepped
  refine ⟨moves.isName stands.isName, fun above begins different => ?_⟩
  by_cases same : above = place
  · exact same ▸ isDirectory
  · exact stands.isDirectory above (moves.above begins different) same

/-- Following segments comes to the names that are left when they are settled, and finds every
directory on the way. -/
theorem Stands.foldlM {segments : List Text} {place last : Place} (stands : store.Stands place)
    (followed : segments.foldlM (FileStore.step store) place = .ok last) :
    store.Stands last ∧ last.reverse = segments.foldl (Path.settle true) place.reverse := by
  induction segments generalizing place with
  | nil =>
      cases followed
      exact ⟨stands, rfl⟩
  | cons segment segments ih =>
      rw [List.foldlM_cons] at followed
      obtain ⟨next, stepped, rest⟩ := exists_of_bind_eq_ok followed
      obtain ⟨standsLast, settled⟩ := ih (stands.step stepped) rest
      refine ⟨standsLast, ?_⟩
      rw [settled, (moves_of_step stepped).2.reverse_eq stands.isName, List.foldl_cons]

/-- The names on the way to a place lead there. -/
theorem Stands.foldlM_names {place : Place} (stands : store.Stands place) :
    place.foldlM (FileStore.step store) [] = .ok place := by
  induction place using List.reverseRecOn with
  | nil => rfl
  | append_singleton place name ih =>
      have begins : place <+: place ++ [name] := List.prefix_append place [name]
      have stands' : store.Stands place := by
        refine ⟨fun other known => stands.isName other (List.mem_append_left _ known),
          fun above begins' _ => stands.isDirectory above (begins'.trans begins) ?_⟩
        rintro rfl
        have longer := begins'.length_le
        rw [List.length_append, List.length_singleton] at longer
        omega
      have isDirectory : store.at? place = some .directory :=
        stands.isDirectory place begins (by simp)
      have isName : Path.IsName name := stands.isName name (by simp)
      rw [List.foldlM_append, ih stands']
      exact (bind_pure _).trans (step_of_isName isDirectory isName)

section
variable {process path : Text} {place : Place} (absolute : Path.isAbsolute path = true)

include absolute

theorem stands_of_follow (followed : store.follow process path = .ok place) :
    store.Stands place ∧ place.reverse = Path.traverse [] path := by
  unfold follow at followed
  rw [Path.combine, if_pos absolute] at followed
  obtain ⟨stands, settled⟩ := (stands_root store).foldlM followed
  refine ⟨stands, settled.trans ?_⟩
  cases path with
  | nil => simp [Path.isAbsolute] at absolute
  | cons first rest =>
      have isSlash : first = Path.slash := by simpa [Path.isAbsolute] using absolute
      rw [isSlash, Path.traverse_slash_cons, Text.split, if_pos rfl]
      rfl

end

/-!
### Direct paths
-/

/-- The plain path that goes down to a place. -/
def direct (place : Place) : Path.Plain := { root := [Path.slash], segments := place }

/-- The text of the direct path to a place: absolute, and without `.` and `..`. -/
def pathTo (place : Place) : Text := (direct place).toText

section
variable {process path : Text} {place : Place}

theorem rooted_direct (absolute : Path.isAbsolute path = true)
    (followed : store.follow process path = .ok place) : (direct place).Rooted where
  root := Or.inl rfl
  leading name known := ((stands_of_follow absolute followed).1.isName name known).leads
  clean name known := by
    apply Path.slash_not_mem_of_mem_traverse
    rw [← (stands_of_follow absolute followed).2]
    exact List.mem_reverse.2 known

/-- The direct path leads to a place that any absolute path leads to. -/
theorem follow_pathTo (absolute : Path.isAbsolute path = true)
    (followed : store.follow process path = .ok place) :
    store.follow process (pathTo place) = .ok place := by
  have rooted := rooted_direct absolute followed
  have along := (stands_of_follow absolute followed).1.foldlM_names
  have written : pathTo place = Path.slash :: Text.join Path.slash place := rooted.toText_eq
  have absolute' : Path.isAbsolute (pathTo place) = true := rooted.isAbsolute_toText
  rw [follow, Path.combine, if_pos absolute', written, Text.split, if_pos rfl, List.drop_one,
    List.tail_cons]
  by_cases top : place = []
  · rw [top]
    rfl
  · rw [Text.split_join top rooted.clean, along]

/-- Resolving a path that can be followed gives the direct path to where it leads. -/
theorem resolve_of_follow (absolute : Path.isAbsolute path = true)
    (followed : store.follow process path = .ok place) :
    Path.Plain.resolve process path = direct place := by
  have settled : Path.settleAll true (Text.split Path.slash path) = place := by
    rw [← List.reverse_inj, (stands_of_follow absolute followed).2, Path.settleAll,
      List.reverse_reverse, Path.traverse]
  rw [Path.Plain.resolve, if_pos absolute, settled, direct]

/-- A path that leads to a place is the direct one exactly if it has no `..` and a single slash as
its root. -/
theorem toText_eq_pathTo_iff {plain : Path.Plain} (rooted : plain.Rooted)
    (followed : store.follow process plain.toText = .ok place) :
    plain.toText = pathTo place ↔ plain.root = [Path.slash] ∧ Path.up ∉ plain.segments := by
  have absolute := rooted.isAbsolute_toText
  have rooted' := rooted_direct absolute followed
  constructor
  · intro same
    have segments : plain.segments = place := by
      rw [← rooted.significant_toText, same, pathTo, rooted'.significant_toText, direct]
    rw [pathTo, rooted.toText_eq, rooted'.toText_eq, segments] at same
    refine ⟨List.append_cancel_right same, fun known => ?_⟩
    exact ((stands_of_follow absolute followed).1.isName _ (segments ▸ known)).notUp rfl
  · rintro ⟨root, onward⟩
    have names : ∀ segment ∈ plain.segments, Path.IsName segment := by
      intro segment known
      have leads : segment ≠ [] ∧ segment ≠ Path.here := by
        simpa [Path.leads] using rooted.leading segment known
      exact ⟨leads.1, leads.2, fun isUp => onward (isUp ▸ known)⟩
    have segments : place = plain.segments := by
      rw [← List.reverse_inj, (stands_of_follow absolute followed).2,
        Path.traverse_eq_foldl_significant, rooted.significant_toText,
        Path.foldl_settle_names names, List.append_nil]
    rw [pathTo, direct, segments, ← root]

end

end ModuleAlias.FileStore
