/-
Module: ModuleAlias.Proofs.FileStore.Searching
Purpose: Which file a search upward finds. The directories above a place are the beginnings of its
  list of names, so the nearest directory with a file of a name is the longest beginning with one.
  It does not change when the search starts from another directory, as long as no directory on the
  one way and not on the other has such a file.
Imports: ModuleAlias.Configuration.Provider, ModuleAlias.Manifest, ModuleAlias.Script.Tree,
  ModuleAlias.Proofs.FileStore.Following
Main exports: Path.Plain.find?_beginnings_eq_some_iff, Path.Plain.inside,
  FileStore.searchPaths_of_relative, FileStore.rooted_of_mem_searchPaths, FileStore.HasFile,
  FileStore.IsNearest, FileStore.NoneNearer, searchUp_finds_nearest
-/
import ModuleAlias.Configuration.Provider
import ModuleAlias.Manifest
import ModuleAlias.Script.Tree
import ModuleAlias.Proofs.FileStore.Following

namespace ModuleAlias

/-!
### The beginnings of a list

They come the longest first, so the first one that is sought is the longest that is.
-/

namespace Path.Plain

section
variable {front names : List Text}

theorem mem_beginnings_iff : front ∈ beginnings names ↔ front <+: names := by
  induction names generalizing front with
  | nil => simp [beginnings]
  | cons name names ih =>
      rw [beginnings, List.mem_append, List.mem_map, List.mem_singleton, List.prefix_cons_iff]
      simp only [ih]
      constructor
      · rintro (⟨back, begins, rfl⟩ | rfl)
        · exact Or.inr ⟨back, rfl, begins⟩
        · exact Or.inl rfl
      · rintro (rfl | ⟨back, rfl, begins⟩)
        · exact Or.inr rfl
        · exact Or.inl ⟨back, begins, rfl⟩

theorem pairwise_beginnings (names : List Text) :
    (beginnings names).Pairwise fun longer shorter => shorter <+: longer := by
  induction names with
  | nil => exact List.pairwise_singleton _ _
  | cons name names ih =>
      rw [beginnings, List.pairwise_append, List.pairwise_map]
      refine ⟨ih.imp ?_, List.pairwise_singleton _ _, ?_⟩
      · intro longer shorter begins
        exact List.cons_prefix_cons.2 ⟨rfl, begins⟩
      · intro longer _ shorter known
        rw [List.mem_singleton.1 known]
        exact List.nil_prefix

variable {sought : List Text → Bool}

theorem prefix_of_find?_beginnings (found : (beginnings names).find? sought = some front)
    {other : List Text} (begins : other <+: names) (isSought : sought other = true) :
    other <+: front := by
  obtain ⟨_, before, after, parted, passed⟩ := List.find?_eq_some_iff_append.1 found
  have known : other ∈ before ++ front :: after := parted ▸ mem_beginnings_iff.2 begins
  rcases List.mem_append.1 known with longer | later
  · have notSought := passed other longer
    rw [isSought] at notSought
    cases notSought
  · rcases List.mem_cons.1 later with rfl | shorter
    · exact List.prefix_rfl
    · have order := parted ▸ pairwise_beginnings names
      exact (List.pairwise_cons.1 (List.pairwise_append.1 order).2.1).1 other shorter

/-- The first beginning that is sought is the longest one. -/
theorem find?_beginnings_eq_some_iff :
    (beginnings names).find? sought = some front ↔
      front <+: names ∧ sought front = true ∧
        ∀ other, other <+: names → sought other = true → other <+: front := by
  constructor
  · intro found
    exact ⟨mem_beginnings_iff.1 (List.mem_of_find?_eq_some found), List.find?_some found,
      fun other begins isSought => prefix_of_find?_beginnings found begins isSought⟩
  · rintro ⟨begins, isSought, longest⟩
    obtain ⟨first, found⟩ := Option.isSome_iff_exists.1
      (List.find?_isSome.2 ⟨front, mem_beginnings_iff.2 begins, isSought⟩)
    have shorter := longest first (mem_beginnings_iff.1 (List.mem_of_find?_eq_some found))
      (List.find?_some found)
    have longer := prefix_of_find?_beginnings found begins isSought
    rw [found, shorter.eq_of_length_le longer.length_le]

theorem find?_beginnings_eq_none_iff :
    (beginnings names).find? sought = none ↔ ∀ other, other <+: names → sought other = false := by
  simp only [List.find?_eq_none, mem_beginnings_iff, Bool.not_eq_true]

/-- Of two lists, the same beginning is found, if every one that is sought in either is a beginning
of a third list that both begin with. -/
theorem find?_beginnings_congr {common other : List Text} (begins : common <+: names)
    (begins' : common <+: other)
    (within : ∀ front, front <+: names → sought front = true → front <+: common)
    (within' : ∀ front, front <+: other → sought front = true → front <+: common) :
    (beginnings names).find? sought = (beginnings other).find? sought := by
  have alike {list : List Text} (begins : common <+: list)
      (within : ∀ front, front <+: list → sought front = true → front <+: common) :
      (beginnings list).find? sought = (beginnings common).find? sought := by
    ext front
    rw [find?_beginnings_eq_some_iff, find?_beginnings_eq_some_iff]
    constructor
    · rintro ⟨known, isSought, longest⟩
      exact ⟨within front known isSought, isSought,
        fun other known => longest other (known.trans begins)⟩
    · rintro ⟨known, isSought, longest⟩
      exact ⟨known.trans begins, isSought,
        fun other known' isSought' => longest other (within other known' isSought') isSought'⟩
  rw [alike begins within, alike begins' within']

end

/-- The path of a name in a directory, which is given by the names on the way to it. -/
def inside (directory : List Text) (name : Text) : Plain where
  root := [slash]
  segments := directory ++ significant name

end Path.Plain

namespace FileStore

open Path.Plain (inside)

/-!
### Where a search looks
-/

section
variable {process name : Text} {start : Option Text}

/-- The names on the way to the directory that a search starts from. -/
def startPlace (process : Text) (start : Option Text) : Place :=
  (startDirectory process start).segments

theorem root_startDirectory (process : Text) (start : Option Text) :
    (startDirectory process start).root = [Path.slash] := by
  unfold startDirectory
  split
  · rfl
  · rfl

/-- A search starts from an absolute path without `..`. -/
theorem exists_startPlace_eq (process : Text) (start : Option Text) :
    ∃ path, startPlace process start = (Path.traverse [] path).reverse := by
  unfold startPlace startDirectory
  split
  · exact ⟨_, rfl⟩
  · exact ⟨_, rfl⟩

/-- A relative name is looked for in the directory that a search starts from, and in every directory
on the way to it. -/
theorem searchPaths_of_relative (relative : Path.isAbsolute name = false) :
    searchPaths process name start =
      (Path.Plain.beginnings (startPlace process start)).map fun directory =>
        inside directory name := by
  have unrooted : (Path.Plain.ofText name).root = [] := (Path.root_eq_nil_iff name).2 relative
  have rooted := root_startDirectory process start
  rw [searchPaths, relative, if_neg Bool.false_ne_true, Path.Plain.ancestors, List.map_map]
  apply List.map_congr_left
  intro directory _
  simp only [Function.comp_apply, Path.Plain.combine, unrooted, rooted, if_true]
  rfl

theorem searchPaths_of_absolute (absolute : Path.isAbsolute name = true) :
    searchPaths process name start = [Path.Plain.ofText name] := by
  rw [searchPaths, absolute, if_pos rfl]

/-- The names on the way to the start of a search do not lead back. -/
theorem isName_of_mem_startPlace {directory : Place}
    (onTheWay : directory <+: startPlace process start) {segment : Text}
    (known : segment ∈ directory) :
    Path.IsName segment ∧ Path.slash ∉ segment := by
  obtain ⟨path, place⟩ := exists_startPlace_eq process start
  have member : segment ∈ Path.traverse [] path := by
    rw [← List.mem_reverse, ← place]
    exact onTheWay.subset known
  exact ⟨Path.isName_of_mem_traverse member, Path.slash_not_mem_of_mem_traverse member⟩

theorem rooted_inside {directory : Place} (onTheWay : directory <+: startPlace process start) :
    (inside directory name).Rooted where
  root := Or.inl rfl
  clean segment known := by
    rcases List.mem_append.1 known with above | named
    · exact (isName_of_mem_startPlace onTheWay above).2
    · exact Path.slash_not_mem_of_mem_significant name named
  leading segment known := by
    rcases List.mem_append.1 known with above | named
    · exact (isName_of_mem_startPlace onTheWay above).1.leads
    · exact Path.leads_of_mem_significant name named

theorem rooted_of_mem_searchPaths {path : Path.Plain}
    (known : path ∈ searchPaths process name start) : path.Rooted := by
  cases absolute : Path.isAbsolute name with
  | true =>
      rw [searchPaths_of_absolute absolute] at known
      rw [List.mem_singleton.1 known]
      exact Path.rooted_ofText name absolute
  | false =>
      rw [searchPaths_of_relative absolute] at known
      obtain ⟨directory, begins, rfl⟩ := List.mem_map.1 known
      exact rooted_inside (Path.Plain.mem_beginnings_iff.1 begins)

end

/-!
### What a search finds
-/

/-- A directory has a file of a name: the name leads from it to a file. A directory of that name
does not count. -/
def HasFile (store : FileStore) (process : Text) (directory : Place) (name : Text) : Prop :=
  ∃ place content, store.follow process (inside directory name).toText = .ok place ∧
    store.at? place = some (.file content)

section
variable {store : FileStore} {process name : Text} {start : Option Text}

theorem isFile_iff {path : Text} (filled : path ≠ []) :
    store.isFile process path = true ↔
      ∃ place content, store.follow process path = .ok place ∧
        store.at? place = some (.file content) := by
  constructor
  · intro known
    cases read : store.readBytes process path with
    | error fault =>
        rw [isFile, read] at known
        cases known
    | ok content =>
        obtain ⟨_, place, followed, stands⟩ := readBytes_eq_ok read
        exact ⟨place, content, followed, stands⟩
  · rintro ⟨place, content, followed, stands⟩
    rw [isFile, readBytes_of_follow filled followed stands]
    rfl

theorem isFile_inside_iff (directory : Place) :
    store.isFile process (inside directory name).toText = true ↔
      store.HasFile process directory name := by
  apply isFile_iff
  rw [Path.Plain.toText, if_neg (by simp [inside])]
  simp [inside]

/-- What a search finds is a file at one of the paths that it tries. -/
theorem mem_searchPaths_of_searchUp {found : Path.Plain}
    (sought : store.searchUp process name start = some found) :
    found ∈ searchPaths process name start ∧ store.isFile process found.toText = true := by
  unfold searchUp at sought
  have isFile := List.find?_some sought
  exact ⟨List.mem_of_find?_eq_some sought, isFile⟩

theorem searchUp_of_relative (relative : Path.isAbsolute name = false) :
    store.searchUp process name start =
      ((Path.Plain.beginnings (startPlace process start)).find? fun directory =>
        store.isFile process (inside directory name).toText).map fun directory =>
          inside directory name := by
  rw [searchUp, searchPaths_of_relative relative, List.find?_map]
  rfl

/-- Of the directories on the way to a place, the place among them, one is the deepest that has a
file of a name. -/
structure IsNearest (store : FileStore) (process name : Text) (way directory : Place) : Prop where
  onTheWay : directory <+: way
  hasFile : store.HasFile process directory name
  deepest : ∀ other, other <+: way → store.HasFile process other name → other <+: directory

/-- A place lies below a project, and no directory below the project and on the way to the place has
a file of a name. -/
structure NoneNearer (store : FileStore) (process name : Text) (project way : Place) : Prop where
  below : project <+: way
  none : ∀ other, other <+: way → store.HasFile process other name → other <+: project

theorem find?_isNearest_iff {way directory : Place} :
    ((Path.Plain.beginnings way).find? fun directory =>
        store.isFile process (inside directory name).toText) = some directory ↔
      store.IsNearest process name way directory := by
  rw [Path.Plain.find?_beginnings_eq_some_iff]
  simp only [isFile_inside_iff]
  exact ⟨fun ⟨onTheWay, hasFile, deepest⟩ => ⟨onTheWay, hasFile, deepest⟩,
    fun ⟨onTheWay, hasFile, deepest⟩ => ⟨onTheWay, hasFile, deepest⟩⟩

/-- A search finds a relative name in the nearest directory. -/
theorem searchUp_eq_some_iff (relative : Path.isAbsolute name = false) {path : Path.Plain} :
    store.searchUp process name start = some path ↔
      ∃ directory, store.IsNearest process name (startPlace process start) directory ∧
        path = inside directory name := by
  rw [searchUp_of_relative relative, Option.map_eq_some_iff]
  exact exists_congr fun directory => and_congr find?_isNearest_iff eq_comm

theorem searchUp_eq_none_iff (relative : Path.isAbsolute name = false) :
    store.searchUp process name start = none ↔
      ∀ directory, directory <+: startPlace process start →
        ¬ store.HasFile process directory name := by
  rw [searchUp_of_relative relative, Option.map_eq_none_iff,
    Path.Plain.find?_beginnings_eq_none_iff]
  simp only [← Bool.not_eq_true, isFile_inside_iff]

/-- Searches for one name from below one project, with none nearer, come to the same. -/
theorem searchUp_of_noneNearer {start' : Option Text} {project : Place}
    (near : store.NoneNearer process name project (startPlace process start))
    (near' : store.NoneNearer process name project (startPlace process start')) :
    store.searchUp process name start = store.searchUp process name start' := by
  cases absolute : Path.isAbsolute name with
  | true =>
      rw [searchUp, searchUp, searchPaths_of_absolute absolute, searchPaths_of_absolute absolute]
  | false =>
      rw [searchUp_of_relative absolute, searchUp_of_relative absolute,
        Path.Plain.find?_beginnings_congr near.below near'.below]
      · simpa only [isFile_inside_iff] using near.none
      · simpa only [isFile_inside_iff] using near'.none

/-- From between the start of a search and the directory of the file that it finds, the same file is
found. -/
theorem IsNearest.of_between {way between directory : Place}
    (nearest : store.IsNearest process name way directory) (above : directory <+: between)
    (onTheWay : between <+: way) : store.IsNearest process name between directory where
  onTheWay := above
  hasFile := nearest.hasFile
  deepest other begins hasFile := nearest.deepest other (begins.trans onTheWay) hasFile

theorem IsNearest.noneNearer {way directory : Place}
    (nearest : store.IsNearest process name way directory) :
    store.NoneNearer process name directory way where
  below := nearest.onTheWay
  none := nearest.deepest

end

end FileStore

section
variable (around : Surroundings) {name : Text}

open FileStore
open Path.Plain (inside)

/-- A search for a relative name finds it in the nearest directory with such a file, and nothing if
no directory on the way has one; from every directory between the two it finds the same. Below one
project and without anything nearer, the same manifest is read and the same configuration found, or
the same failure reported. -/
theorem searchUp_finds_nearest (relative : Path.isAbsolute name = false) (start : Option Text) :
    let found := around.store.searchUp around.process name start
    let way := startPlace around.process start
    (∀ path, found = some path ↔
        ∃ directory, around.store.IsNearest around.process name way directory ∧
          path = inside directory name) ∧
      (found = none ↔
        ∀ directory, directory <+: way → ¬ around.store.HasFile around.process directory name) ∧
      (∀ directory between, around.store.IsNearest around.process name way directory →
        directory <+: startPlace around.process between →
        startPlace around.process between <+: way →
        around.store.searchUp around.process name between = found) ∧
      (∀ project one other,
        around.store.NoneNearer around.process Manifest.fileName project
          (startPlace around.process one) →
        around.store.NoneNearer around.process Manifest.fileName project
          (startPlace around.process other) →
        Manifest.discover around.store around.process one =
          Manifest.discover around.store around.process other) ∧
      ∀ project (one other : Configuration.Options), one.search = true → other.search = true →
        one.name = other.name →
        around.store.NoneNearer around.process one.name project
          (startPlace around.process (some (one.directoryIn around))) →
        around.store.NoneNearer around.process one.name project
          (startPlace around.process (some (other.directoryIn around))) →
        Configuration.locate around one = Configuration.locate around other := by
  intro found way
  refine ⟨?found, ?nothing, ?between, ?manifest, ?configuration⟩
  case found =>
    intro path
    exact searchUp_eq_some_iff relative
  case nothing => exact searchUp_eq_none_iff relative
  case between =>
    intro directory between nearest above onTheWay
    have fromHere := (searchUp_eq_some_iff relative).2 ⟨directory, nearest, rfl⟩
    have fromThere := (searchUp_eq_some_iff relative).2
      ⟨directory, nearest.of_between above onTheWay, rfl⟩
    exact fromThere.trans fromHere.symm
  case manifest =>
    intro project one other near near'
    rw [Manifest.discover, Manifest.discover, Manifest.find, Manifest.find,
      searchUp_of_noneNearer near near']
  case configuration =>
    intro project one other searches searches' same near near'
    simp only [Configuration.locate, searches, searches', if_true, ← same,
      searchUp_of_noneNearer near near']

end

/-- Surroundings with a configuration file in a project, and below it a directory of that name. -/
def nestedAround : Surroundings where
  store :=
    { items :=
        [(["p"], .directory), (["p", "c.json"], .file "\x7b\x7d".toUTF8),
          (["p", "a"], .directory), (["p", "a", "c.json"], .directory),
          (["p", "a", "b"], .directory)] }
  process := "/p"
  environment := none
  evaluators :=
    { executable := "node"
      evaluate := fun _ _ => .noEvaluator
      importModule := fun _ => .error [] }
  parse := Script.Tree.ofSource

/-- The directory of the same name is passed, and the file in the project is found from the two
directories below it. -/
theorem file_is_found_above_directory :
    nestedAround.store.searchUp "/p" "c.json" (some "a//b/../b") =
        some (Path.Plain.inside ["p"] "c.json") ∧
      nestedAround.store.searchUp "/p" "c.json" (some "/p/a/.") =
        some (Path.Plain.inside ["p"] "c.json") ∧
      Configuration.locate nestedAround { name := "c.json", search := true, working := some "a" } =
        Configuration.locate nestedAround
          { name := "c.json", search := true, working := some "/p/a/b" } := by
  obtain ⟨found, _, between, _, located⟩ :=
    searchUp_finds_nearest nestedAround (by decide : Path.isAbsolute "c.json" = false)
      (some "a//b/../b")
  let project : FileStore.Place := ["p"]
  have nearest (start : Option Text) (finds : ((Path.Plain.beginnings
      (FileStore.startPlace "/p" start)).find? fun directory =>
        nestedAround.store.isFile "/p" (Path.Plain.inside directory "c.json").toText) =
          some project) :
      nestedAround.store.IsNearest "/p" "c.json" (FileStore.startPlace "/p" start) project :=
    FileStore.find?_isNearest_iff.1 finds
  have fromBelow := nearest (some "a//b/../b") (by decide +kernel)
  have here := (found _).2 ⟨project, fromBelow, rfl⟩
  refine ⟨here, ?_, ?_⟩
  · exact (between project (some "/p/a/.") fromBelow (by decide +kernel) (by decide +kernel)).trans
      here
  · apply located project
    · rfl
    · rfl
    · rfl
    · exact (nearest (some "/p/a") (by decide +kernel)).noneNearer
    · exact (nearest (some "/p/a/b") (by decide +kernel)).noneNearer

end ModuleAlias
