/-
Module: ModuleAlias.Proofs.Configuration.ResolvedPaths
Purpose: The paths that configurations are filed under. Without a search the path of a configuration
  file is resolved, so every spelling of it comes to the direct path. A search keeps the path that
  it has put together, which is the direct one unless the name that is searched for leads back or
  begins with exactly two slashes. Direct requests for one file are filed alike, and the file is
  then read once until everything is forgotten; a detour to it is filed apart and reads it again.
Imports: ModuleAlias.Script.Tree, ModuleAlias.Proofs.Alias.Importers,
  ModuleAlias.Proofs.Configuration.Histories, ModuleAlias.Proofs.FileStore.Places
Main exports: Configuration.Options.Direct, Surroundings.LeadsTo,
  Configuration.exists_leadsTo_of_locate, Provider.filed_under_direct_path_iff
-/
import ModuleAlias.Script.Tree
import ModuleAlias.Proofs.Alias.Importers
import ModuleAlias.Proofs.Configuration.Histories
import ModuleAlias.Proofs.FileStore.Places

namespace ModuleAlias

open FileStore (pathTo)

/-- A path leads to the file at a place. -/
def Surroundings.LeadsTo (around : Surroundings) (path : Text) (place : FileStore.Place) : Prop :=
  around.store.follow around.process path = .ok place ∧
    ∃ content, around.store.at? place = some (.file content)

namespace Configuration

/-- A request is direct unless it searches for a name that leads back or begins with exactly two
slashes. -/
def Options.Direct (options : Options) : Prop :=
  options.search = true →
    Path.root options.name ≠ [Path.slash, Path.slash] ∧ Path.up ∉ Path.significant options.name

instance (options : Options) : Decidable options.Direct :=
  inferInstanceAs (Decidable (_ → _))

/-!
### Which paths are direct
-/

section
variable {around : Surroundings} {options : Options} {path : Text}

theorem exists_leadsTo_of_isFile {plain : Path.Plain} (rooted : plain.Rooted)
    (isFile : around.store.isFile around.process plain.toText = true) :
    ∃ place, around.LeadsTo plain.toText place := by
  have filled : plain.toText ≠ [] := by
    intro empty
    have absolute := rooted.isAbsolute_toText
    rw [empty] at absolute
    cases absolute
  obtain ⟨place, content, followed, stands⟩ := (FileStore.isFile_iff filled).1 isFile
  exact ⟨place, followed, content, stands⟩

/-- The directories that a search looks in are given by their names, so whether it leads back is a
matter of the name that it looks for. -/
theorem isDirect_iff_of_mem_searchPaths {process name : Text} {start : Option Text}
    {found : Path.Plain} (known : found ∈ FileStore.searchPaths process name start) :
    found.root = [Path.slash] ∧ Path.up ∉ found.segments ↔
      Path.root name ≠ [Path.slash, Path.slash] ∧ Path.up ∉ Path.significant name := by
  cases absolute : Path.isAbsolute name with
  | true =>
      rw [FileStore.searchPaths_of_absolute absolute] at known
      rw [List.mem_singleton.1 known, Path.segments_ofText]
      apply and_congr_left'
      change Path.root name = [Path.slash] ↔ _
      rcases Path.root_of_isAbsolute absolute with single | double
      · simp [single]
      · simp [double]
  | false =>
      rw [FileStore.searchPaths_of_relative absolute] at known
      obtain ⟨directory, begins, rfl⟩ := List.mem_map.1 known
      have none : Path.root name = [] := (Path.root_eq_nil_iff name).2 absolute
      have onward : Path.up ∉ directory := by
        intro isUp
        have onTheWay := Path.Plain.mem_beginnings_iff.1 begins
        exact (FileStore.isName_of_mem_startPlace onTheWay isUp).1.notUp rfl
      simp [Path.Plain.inside, none, onward]

variable (inRoot : Path.isAbsolute around.process = true)

include inRoot

theorem isAbsolute_directoryIn (options : Options) :
    Path.isAbsolute (options.directoryIn around) = true := by
  unfold Options.directoryIn
  split
  · exact Path.isAbsolute_complete inRoot _
  · exact Path.isAbsolute_complete inRoot _

/-- The path at which a configuration file is found leads to a file, and is the direct path to it
exactly if the request is direct. -/
theorem exists_leadsTo_of_locate (located : locate around options = .ok path) :
    ∃ place, around.LeadsTo path place ∧ (path = pathTo place ↔ options.Direct) := by
  rcases locate_eq_ok located with ⟨searches, found, rfl, sought⟩ | ⟨stays, isFile, rfl⟩
  · obtain ⟨known, isFile⟩ := FileStore.mem_searchPaths_of_searchUp sought
    have rooted := FileStore.rooted_of_mem_searchPaths known
    obtain ⟨place, leads⟩ := exists_leadsTo_of_isFile rooted isFile
    refine ⟨place, leads, ?_⟩
    rw [FileStore.toText_eq_pathTo_iff rooted leads.1, isDirect_iff_of_mem_searchPaths known,
      Options.Direct, searches]
    simp
  · have rooted : ((Path.Plain.ofText (options.directoryIn around)).combine
        (Path.Plain.ofText options.name)).Rooted :=
      (Path.rooted_ofText _ (isAbsolute_directoryIn inRoot options)).combine options.name
    obtain ⟨place, followed, stands⟩ := exists_leadsTo_of_isFile rooted isFile
    have absolute := rooted.isAbsolute_toText
    rw [FileStore.resolve_of_follow absolute followed]
    refine ⟨place, ⟨FileStore.follow_pathTo absolute followed, stands⟩, ?_⟩
    simp [Options.Direct, stays, pathTo]

end

/-- A configuration that is read keeps the path that it is read from. -/
theorem path_of_produce {around : Surroundings} {path : Text} {environment : Option Text}
    {configuration : Configuration}
    (produced : produce around path environment = .ok configuration) :
    configuration.path = some path := by
  obtain ⟨value, _, read⟩ := exists_of_bind_eq_ok produced
  unfold ofValue at read
  split at read
  · obtain ⟨members, _, made⟩ := exists_of_bind_eq_ok read
    cases made
    rfl
  · cases read

end Configuration

namespace Provider

/-!
### What is filed
-/

/-- Whatever happened before, a request is answered with a configuration whose path is the one in
the key of the request. -/
theorem path_of_answer {around : Surroundings} {options : Configuration.Options} {key : CacheKey}
    (found : keyOf around options = .ok key) {history : List Event} {configuration : Configuration}
    {left : Provider}
    (answered : (afterAll history).answer (load around options) = (.ok configuration, left)) :
    configuration.path = some key.path := by
  rcases answer_load_eq_ok found answered with ⟨known, _⟩ | ⟨produced, _⟩
  · rw [remembered?_afterAll] at known
    obtain ⟨event, _, read⟩ := List.exists_of_findSome?_eq_some known
    obtain ⟨other, asked, _, filed, produced⟩ := Event.read?_eq_some read
    rw [unremembered_of_keyOf filed] at produced
    exact Configuration.path_of_produce produced
  · exact Configuration.path_of_produce produced

section
variable {around around' : Surroundings} {options options' : Configuration.Options}
  {key key' : CacheKey}

/-- Whatever happened before a request, and whatever is asked for after it, another one that is
filed alike is answered from memory until everything is forgotten. -/
theorem answer_load_later (found : keyOf around options = .ok key)
    (found' : keyOf around' options' = .ok key) {history later : List Event}
    {configuration : Configuration} {left : Provider}
    (answered : (afterAll history).answer (load around options) = (.ok configuration, left))
    (keeping : ∀ event ∈ later, event.isCleared = false) :
    let after := afterAll (history ++ .asked around options :: later)
    after.answer (load around' options') = (.ok configuration, after) := by
  intro after
  have remembering := remembers_afterAll history
  have known := remembered?_of_answer remembering found answered
  have left' : (Event.asked around options).leave (afterAll history) = left := by
    rw [Event.leave, answered]
  have kept : left.remembers = true := by rw [← left', remembers_leave, remembering]
  have unrolled : after = later.foldl Event.leave left :=
    (afterAll_append_cons history _ later).trans (congrArg (later.foldl Event.leave) left')
  rw [unrolled]
  exact answer_load_of_remembered found' (remembered?_foldl_leave kept known keeping)

/-- The path that a configuration is filed under leads to its file, and is the direct path to it
exactly if the request is direct. Of requests for one file in one environment, direct ones are
filed alike and apart from all others. The path of a configuration is the one that it is filed
under; and once a direct request is answered, every direct request for the file is answered from
memory until everything is forgotten, whatever happens to the file. -/
theorem filed_under_direct_path_iff (inRoot : Path.isAbsolute around.process = true)
    (inRoot' : Path.isAbsolute around'.process = true) (found : keyOf around options = .ok key)
    (found' : keyOf around' options' = .ok key') :
    ∃ place place',
      around.LeadsTo key.path place ∧ around'.LeadsTo key'.path place' ∧
        (key.path = pathTo place ↔ options.Direct) ∧
        (key'.path = pathTo place' ↔ options'.Direct) ∧
        (place = place' → key.environment = key'.environment → options.Direct →
          (key' = key ↔ options'.Direct)) ∧
        ∀ history configuration left,
          (afterAll history).answer (load around options) = (.ok configuration, left) →
            configuration.path = some key.path ∧
              (place = place' → key.environment = key'.environment → options.Direct →
                options'.Direct → ∀ later : List Event,
                  (∀ event ∈ later, event.isCleared = false) →
                    let after := afterAll (history ++ .asked around options :: later)
                    after.answer (load around' options') = (.ok configuration, after)) := by
  obtain ⟨place, leads, direct⟩ :=
    Configuration.exists_leadsTo_of_locate inRoot (locate_of_keyOf found)
  obtain ⟨place', leads', direct'⟩ :=
    Configuration.exists_leadsTo_of_locate inRoot' (locate_of_keyOf found')
  have alike : place = place' → key.environment = key'.environment → options.Direct →
      (key' = key ↔ options'.Direct) := by
    rintro rfl environment isDirect
    rw [← direct', ← direct.2 isDirect]
    constructor
    · rintro rfl
      rfl
    · intro path
      cases key
      cases key'
      cases environment
      cases path
      rfl
  refine ⟨place, place', leads, leads', direct, direct', alike, ?_⟩
  intro history configuration left answered
  refine ⟨path_of_answer found answered, ?_⟩
  intro same environment isDirect isDirect' later keeping
  cases (alike same environment isDirect).2 isDirect'
  exact answer_load_later found found' answered keeping

end

/-- Surroundings with a configuration file that has a content, and a directory beside it. -/
def besideAround (content : String) : Surroundings where
  store :=
    { items :=
        [(["p"], .directory), (["p", "sub"], .directory),
          (["p", "c.json"], .file content.toUTF8)] }
  process := "/p"
  environment := none
  evaluators :=
    { executable := "node"
      evaluate := fun _ _ => .noEvaluator
      importModule := fun _ => .error [] }
  parse := Script.Tree.ofSource

/-- A configuration without aliases, from the file beside the directory. -/
def besideConfiguration : Configuration where
  aliases := { entries := [] }
  externals := []
  path := some "/p/c.json"

/-- The configuration file, spelled with doubled slashes from a working directory that is left
again. -/
def besideSpelled : Configuration.Options := { name := ".//c.json", working := some "sub/.." }

/-- A search for the configuration file from the directory beside it. -/
def besideSearched : Configuration.Options :=
  { name := "c.json", search := true, working := some "sub" }

/-- A search for the configuration file by a way through the directory beside it. -/
def besideDetour : Configuration.Options := { name := "sub/../c.json", search := true }

/-- The file is found under one key by its spelling and by the search from below; and what it said
first is answered to the search, although it is no configuration any more. -/
theorem searched_file_is_read_once :
    keyOf (besideAround "[]") besideSearched = keyOf (besideAround "\x7b\x7d") besideSpelled ∧
      ((afterAll [.asked (besideAround "\x7b\x7d") besideSpelled]).answer
        (load (besideAround "[]") besideSearched)).1 = .ok besideConfiguration := by
  let key : CacheKey := { path := "/p/c.json", environment := none }
  let left : Provider := { cache := [(key, besideConfiguration)] }
  have found : keyOf (besideAround "\x7b\x7d") besideSpelled = .ok key := by rfl
  have found' : keyOf (besideAround "[]") besideSearched = .ok key := by rfl
  have direct : besideSpelled.Direct := by decide +kernel
  have direct' : besideSearched.Direct := by decide +kernel
  have read : (afterAll []).answer (load (besideAround "\x7b\x7d") besideSpelled) =
      (.ok besideConfiguration, left) := by rfl
  have here : (besideAround "\x7b\x7d").store.follow "/p" "/p/c.json" = .ok ["p", "c.json"] := by
    rfl
  have there : (besideAround "[]").store.follow "/p" "/p/c.json" = .ok ["p", "c.json"] := by rfl
  obtain ⟨place, place', leads, leads', _, _, alike, answers⟩ :=
    filed_under_direct_path_iff (by rfl) (by rfl) found found'
  have same : place = place' :=
    (Except.ok.inj (leads.1.symm.trans here)).trans (Except.ok.inj (there.symm.trans leads'.1))
  have once := (alike same rfl direct).2 direct'
  have again := (answers [] besideConfiguration left read).2 same rfl direct direct' [] (by simp)
  exact ⟨(found'.trans (congrArg Except.ok once)).trans found.symm, congrArg Prod.fst again⟩

/-- The detour leads to the same file, but is filed apart: the file is read twice, and the second
configuration has the detour in its path. -/
theorem detour_is_filed_apart :
    (besideAround "\x7b\x7d").LeadsTo "/p/c.json" ["p", "c.json"] ∧
      (besideAround "\x7b\x7d").LeadsTo "/p/sub/../c.json" ["p", "c.json"] ∧
      keyOf (besideAround "\x7b\x7d") besideSpelled =
        .ok { path := "/p/c.json", environment := none } ∧
      keyOf (besideAround "\x7b\x7d") besideDetour =
        .ok { path := "/p/sub/../c.json", environment := none } ∧
      (afterAll [.asked (besideAround "\x7b\x7d") besideSpelled,
          .asked (besideAround "\x7b\x7d") besideDetour]).cache =
        [({ path := "/p/sub/../c.json", environment := none },
            { besideConfiguration with path := some "/p/sub/../c.json" }),
          ({ path := "/p/c.json", environment := none }, besideConfiguration)] := by
  have direct : (besideAround "\x7b\x7d").LeadsTo "/p/c.json" ["p", "c.json"] := ⟨rfl, _, rfl⟩
  have around : (besideAround "\x7b\x7d").LeadsTo "/p/sub/../c.json" ["p", "c.json"] :=
    ⟨rfl, _, rfl⟩
  exact ⟨direct, around, by rfl, by rfl, by decide +kernel⟩

end Provider

end ModuleAlias
