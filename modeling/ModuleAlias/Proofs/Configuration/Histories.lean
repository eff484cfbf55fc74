/-
Module: ModuleAlias.Proofs.Configuration.Histories
Purpose: What a provider answers after any history of requests and clearings, between which the
  files may change in any way. A key stands for the first configuration that was read under it since
  everything was last forgotten; where there is none, the answer is that of a provider that
  remembers nothing.
Imports: Mathlib.Data.List.DropRight, ModuleAlias.Configuration.Provider,
  ModuleAlias.Proofs.Computation, ModuleAlias.Proofs.FileStore.Searching
Main exports: Configuration.locate_eq_ok, Provider.Event, Provider.afterAll, Provider.sinceClear,
  Provider.unremembered, Provider.firstRead?, Provider.remembered?_foldl_leave,
  Provider.remembered?_afterAll, Surroundings.SameFiles, Provider.answer_load_of_sameFiles
-/
import Mathlib.Data.List.DropRight
import ModuleAlias.Configuration.Provider
import ModuleAlias.Proofs.Computation
import ModuleAlias.Proofs.FileStore.Searching

namespace ModuleAlias

/-!
### Where a configuration is found

The path of a configuration file is absolute, whether it was searched for or not. What the file says
therefore depends on the files and programs around a request, but not on the directory of the
process, nor on the name of the environment that is filed with the path.
-/

/-- The same files and programs are around. -/
def Surroundings.SameFiles (around other : Surroundings) : Prop :=
  around.store = other.store ∧ around.evaluators = other.evaluators

namespace Configuration

/-- A configuration file is found by a search, along the path that the search has put together; or
else in the working directory, and then its path is resolved. -/
theorem locate_eq_ok {around : Surroundings} {options : Options} {path : Text}
    (located : locate around options = .ok path) :
    (options.search = true ∧ ∃ found, path = found.toText ∧
        around.store.searchUp around.process options.name (some (options.directoryIn around)) =
          some found) ∨
      (options.search = false ∧
        let asked := (Path.Plain.ofText (options.directoryIn around)).combine
          (Path.Plain.ofText options.name)
        around.store.isFile around.process asked.toText = true ∧
          path = (Path.Plain.resolve around.process asked.toText).toText) := by
  unfold locate at located
  dsimp only at located
  split at located
  · rename_i searches
    split at located
    · rename_i found sought
      cases located
      exact Or.inl ⟨searches, found, rfl, sought⟩
    · cases located
  · rename_i stays
    split at located
    · rename_i isFile
      cases located
      exact Or.inr ⟨Bool.not_eq_true _ ▸ stays, isFile, rfl⟩
    · cases located

/-- The path at which a configuration file is found is absolute. -/
theorem isAbsolute_of_locate {around : Surroundings} {options : Options} {path : Text}
    (located : locate around options = .ok path) : Path.isAbsolute path = true := by
  rcases locate_eq_ok located with ⟨_, found, rfl, sought⟩ | ⟨_, _, rfl⟩
  · have known := (FileStore.mem_searchPaths_of_searchUp sought).1
    exact (FileStore.rooted_of_mem_searchPaths known).isAbsolute_toText
  · rw [Path.Plain.toText, if_neg (by simp [Path.Plain.resolve])]
    rfl

/-- A configuration file that is not found is reported by its path alone. -/
theorem report?_of_locate_error {around : Surroundings} {options : Options} {fault : Fault}
    (failed : locate around options = .error fault) :
    ∃ path, fault.report? = some (.configurationNotFound path none) := by
  unfold locate at failed
  dsimp only at failed
  split at failed
  · split at failed
    · cases failed
    · cases failed
      exact ⟨_, rfl⟩
  · split at failed
    · cases failed
    · cases failed
      exact ⟨_, rfl⟩

/-- What is read at an absolute path depends on the files and programs around alone. -/
theorem produce_of_sameFiles {around other : Surroundings} (same : around.SameFiles other)
    {path : Text} (absolute : Path.isAbsolute path = true) (environment : Option Text) :
    produce around path environment = produce other path environment := by
  obtain ⟨store, evaluators⟩ := same
  have read : around.store.readText around.process path =
      other.store.readText other.process path := by
    simp only [FileStore.readText, FileStore.readBytes, FileStore.follow, Path.combine, store,
      absolute, if_true]
  have alike : exported around path environment = exported other path environment := by
    simp only [exported, read, evaluators]
  rw [produce, produce, plainExport, plainExport, alike]

end Configuration

namespace Provider

/-!
### One request

A request that is answered from memory, or that fails, leaves the provider as it was.
-/

section
variable {α β : Type}

theorem answer_settle (result : Except Fault α) (provider : Provider) :
    provider.answer (settle result) = (result, provider) := rfl

theorem answer_bind (first : Request α) (second : α → Request β) (provider : Provider) :
    provider.answer (first >>= second) =
      match provider.answer first with
      | (.ok middle, next) => next.answer (second middle)
      | (.error fault, next) => (.error fault, next) := by
  have unrolled : provider.answer (first >>= second) =
      (ExceptT.bindCont second (provider.answer first).1).run (provider.answer first).2 := rfl
  rw [unrolled]
  rcases provider.answer first with ⟨result, next⟩
  cases result with
  | error fault => rfl
  | ok middle => rfl

end

section
variable {provider : Provider} {around : Surroundings} {options : Configuration.Options}
  {key : CacheKey}

theorem locate_of_keyOf (found : keyOf around options = .ok key) :
    Configuration.locate around options = .ok key.path := by
  obtain ⟨path, located, same⟩ := exists_of_bind_eq_ok found
  cases same
  exact located

/-- What has no key is not found. -/
theorem report?_of_keyOf_error {fault : Fault} (failed : keyOf around options = .error fault) :
    ∃ path, fault.report? = some (.configurationNotFound path none) := by
  rw [keyOf] at failed
  cases located : Configuration.locate around options with
  | error fault' =>
      rw [located] at failed
      cases failed
      exact Configuration.report?_of_locate_error located
  | ok path =>
      rw [located] at failed
      cases failed

theorem answer_load_of_not_found {fault : Fault} (failed : keyOf around options = .error fault) :
    provider.answer (load around options) = (.error fault, provider) := by
  rw [load, answer_bind, answer_settle, failed]

/-- The file that is asked for is found, and what it says is looked up or read. -/
theorem answer_load_of_found (found : keyOf around options = .ok key) :
    provider.answer (load around options) =
      match provider.remembered? key with
      | some configuration => (.ok configuration, provider)
      | none =>
        match Configuration.produce around key.path key.environment with
        | .error fault => (.error fault, provider)
        | .ok configuration => (.ok configuration, provider.remember key configuration) := by
  have asked : provider.answer get = (.ok provider, provider) := rfl
  rw [load, answer_bind, answer_settle, found]
  simp only [answer_bind, asked]
  cases provider.remembered? key with
  | some configuration => rfl
  | none =>
      simp only [answer_bind, answer_settle]
      cases Configuration.produce around key.path key.environment with
      | error fault => rfl
      | ok configuration => rfl

theorem answer_load_of_remembered (found : keyOf around options = .ok key)
    {configuration : Configuration} (known : provider.remembered? key = some configuration) :
    provider.answer (load around options) = (.ok configuration, provider) := by
  rw [answer_load_of_found found, known]

/-- Whatever is not remembered is read now. What cannot be read is not remembered either. -/
theorem answer_load_of_unknown (found : keyOf around options = .ok key)
    (unknown : provider.remembered? key = none) :
    provider.answer (load around options) =
      match Configuration.produce around key.path key.environment with
      | .error fault => (.error fault, provider)
      | .ok configuration => (.ok configuration, provider.remember key configuration) := by
  rw [answer_load_of_found found, unknown]

/-- A configuration is answered from memory, or else read now and remembered. -/
theorem answer_load_eq_ok (found : keyOf around options = .ok key) {configuration : Configuration}
    {left : Provider}
    (answered : provider.answer (load around options) = (.ok configuration, left)) :
    (provider.remembered? key = some configuration ∧ left = provider) ∨
      (Configuration.produce around key.path key.environment = .ok configuration ∧
        left = provider.remember key configuration) := by
  rw [answer_load_of_found found] at answered
  split at answered
  · rename_i known
    cases answered
    exact Or.inl ⟨known, rfl⟩
  · split at answered
    · cases answered
    · rename_i produced
      cases answered
      exact Or.inr ⟨produced, rfl⟩

/-- A request that fails leaves the provider as it was. -/
theorem answer_load_error {fault : Fault} {left : Provider}
    (failed : provider.answer (load around options) = (.error fault, left)) : left = provider := by
  cases found : keyOf around options with
  | error fault' =>
      rw [answer_load_of_not_found found] at failed
      cases failed
      rfl
  | ok key =>
      rw [answer_load_of_found found] at failed
      split at failed
      · cases failed
      · split at failed
        · cases failed
          rfl
        · cases failed

end

/-!
### What is remembered
-/

section
variable {provider : Provider} {key : CacheKey}

theorem remembered?_remember (remembering : provider.remembers = true) (filed : CacheKey)
    (configuration : Configuration) :
    (provider.remember filed configuration).remembered? key =
      if filed = key then some configuration else provider.remembered? key := by
  rw [remembered?, remembered?, remember, if_pos remembering, if_pos remembering,
    if_pos remembering]
  by_cases same : filed = key
  · simp [same]
  · have passed : ∀ kept : CacheKey × Configuration,
        decide ((kept.1 != filed) = true ∧ (kept.1 == key) = true) = (kept.1 == key) := by
      intro kept
      by_cases sought : kept.1 = key
      · simp [sought, Ne.symm same]
      · simp [sought]
    rw [List.find?_cons_of_neg (by simpa using same), List.find?_filter, if_neg same]
    simp only [passed]

theorem remembered?_clear : provider.clear.remembered? key = none := by
  rw [remembered?, clear]
  split
  · rfl
  · rfl

/-- A provider that remembers nothing knows nothing. -/
theorem remembered?_of_forgetful (forgetful : provider.remembers = false) :
    provider.remembered? key = none := by
  simp [remembered?, forgetful]

end

/-!
### Histories
-/

/-- What may happen to a provider: it is asked for a configuration, or forgets everything. Each
request has its own surroundings, so anything may have changed since the request before it. -/
inductive Event where
  | asked (around : Surroundings) (options : Configuration.Options)
  | cleared

/-- What is answered to a request when nothing is remembered. -/
def unremembered (around : Surroundings) (options : Configuration.Options) :
    Except Fault Configuration :=
  (Provider.answer { remembers := false } (load around options)).1

namespace Event

/-- The provider that an event leaves. -/
def leave (provider : Provider) : Event → Provider
  | asked around options => (provider.answer (load around options)).2
  | cleared => provider.clear

/-- Whether everything is forgotten. -/
def isCleared : Event → Bool
  | asked _ _ => false
  | cleared => true

/-- The configuration that an event reads for a key when nothing is remembered. -/
def read? (key : CacheKey) : Event → Option Configuration
  | asked around options =>
    match keyOf around options, unremembered around options with
    | .ok found, .ok configuration => if found = key then some configuration else none
    | _, _ => none
  | cleared => none

/-- What was read for a key was asked for, found under the key and not remembered. -/
theorem read?_eq_some {key : CacheKey} {event : Event} {configuration : Configuration}
    (read : event.read? key = some configuration) :
    ∃ around options, event = .asked around options ∧ keyOf around options = .ok key ∧
      unremembered around options = .ok configuration := by
  cases event with
  | cleared => cases read
  | asked around options =>
      rw [Event.read?] at read
      split at read
      · rename_i found configuration' located produced
        split at read
        · rename_i same
          cases read
          exact ⟨around, options, rfl, same ▸ located, produced⟩
        · cases read
      · cases read

end Event

/-- A provider that remembers, after all that happened to it. -/
def afterAll (history : List Event) : Provider := history.foldl Event.leave {}

/-- What happened since everything was last forgotten. -/
def sinceClear (history : List Event) : List Event :=
  history.rtakeWhile fun event => !event.isCleared

/-- The first configuration that was read for a key. -/
def firstRead? (key : CacheKey) (events : List Event) : Option Configuration :=
  events.findSome? (Event.read? key)

section
variable {around : Surroundings} {options : Configuration.Options} {key : CacheKey}

theorem unremembered_of_keyOf (found : keyOf around options = .ok key) :
    unremembered around options =
      Configuration.produce around key.path key.environment := by
  rw [unremembered, answer_load_of_unknown found (remembered?_of_forgetful rfl)]
  cases Configuration.produce around key.path key.environment with
  | error fault => rfl
  | ok configuration => rfl

/-- A provider that remembers nothing is never changed. -/
theorem answer_load_of_forgetful {provider : Provider} (forgetful : provider.remembers = false) :
    provider.answer (load around options) = (unremembered around options, provider) := by
  cases found : keyOf around options with
  | error fault =>
      rw [unremembered, answer_load_of_not_found found, answer_load_of_not_found found]
  | ok key =>
      rw [unremembered_of_keyOf found,
        answer_load_of_unknown found (remembered?_of_forgetful forgetful)]
      cases Configuration.produce around key.path key.environment with
      | error fault => rfl
      | ok configuration => simp [remember, forgetful]

/-- Without anything remembered for its key, a request is answered as if nothing was remembered. -/
theorem answered_of_unknown {provider : Provider} (found : keyOf around options = .ok key)
    (unknown : provider.remembered? key = none) :
    (provider.answer (load around options)).1 = unremembered around options := by
  rw [unremembered_of_keyOf found, answer_load_of_unknown found unknown]
  cases Configuration.produce around key.path key.environment with
  | error fault => rfl
  | ok configuration => rfl

theorem afterAll_append_cons (history : List Event) (event : Event) (later : List Event) :
    afterAll (history ++ event :: later) =
      later.foldl Event.leave (event.leave (afterAll history)) := by
  rw [afterAll, List.foldl_append, List.foldl_cons, ← afterAll]

theorem afterAll_append (history : List Event) (event : Event) :
    afterAll (history ++ [event]) = event.leave (afterAll history) :=
  afterAll_append_cons history event []

theorem remembers_leave (provider : Provider) (event : Event) :
    (event.leave provider).remembers = provider.remembers := by
  cases event with
  | cleared => rfl
  | asked around options =>
      rw [Event.leave]
      cases found : keyOf around options with
      | error fault => rw [answer_load_of_not_found found]
      | ok key =>
          rw [answer_load_of_found found]
          split
          · rfl
          · split
            · rfl
            · rw [remember]
              split
              · rfl
              · rfl

theorem remembers_afterAll (history : List Event) : (afterAll history).remembers = true := by
  induction history using List.reverseRecOn with
  | nil => rfl
  | append_singleton history event ih => rw [afterAll_append, remembers_leave, ih]

/-- What a request reads is remembered from then on, unless something is remembered already. -/
theorem remembered?_leave_asked {provider : Provider} (remembering : provider.remembers = true)
    (around : Surroundings) (options : Configuration.Options) :
    ((Event.asked around options).leave provider).remembered? key =
      (provider.remembered? key).or ((Event.asked around options).read? key) := by
  rw [Event.leave, Event.read?]
  cases found : keyOf around options with
  | error fault => simp [answer_load_of_not_found found]
  | ok asked =>
      rw [unremembered_of_keyOf found]
      cases known : provider.remembered? asked with
      | some configuration =>
          rw [answer_load_of_remembered found known]
          by_cases same : asked = key
          · simp [← same, known]
          · cases Configuration.produce around asked.path asked.environment with
            | error fault => simp
            | ok configuration => simp [same]
      | none =>
          rw [answer_load_of_unknown found known]
          cases Configuration.produce around asked.path asked.environment with
          | error fault => simp
          | ok configuration =>
              simp only [remembered?_remember remembering]
              by_cases same : asked = key
              · simp [← same, known]
              · simp [same]

/-- What a request is answered with is remembered under its key. -/
theorem remembered?_of_answer {provider left : Provider} (remembering : provider.remembers = true)
    (found : keyOf around options = .ok key) {configuration : Configuration}
    (answered : provider.answer (load around options) = (.ok configuration, left)) :
    left.remembered? key = some configuration := by
  rcases answer_load_eq_ok found answered with ⟨known, rfl⟩ | ⟨_, rfl⟩
  · exact known
  · rw [remembered?_remember remembering, if_pos rfl]

/-- What is remembered stays until everything is forgotten. -/
theorem remembered?_foldl_leave {provider : Provider} (remembering : provider.remembers = true)
    {configuration : Configuration} (known : provider.remembered? key = some configuration)
    {later : List Event} (keeping : ∀ event ∈ later, event.isCleared = false) :
    (later.foldl Event.leave provider).remembered? key = some configuration := by
  induction later generalizing provider with
  | nil => exact known
  | cons event later ih =>
      rw [List.foldl_cons]
      refine ih ?_ ?_ fun other member => keeping other (List.mem_cons_of_mem event member)
      · rw [remembers_leave, remembering]
      · cases event with
        | cleared => cases keeping .cleared List.mem_cons_self
        | asked around options => rw [remembered?_leave_asked remembering, known, Option.some_or]

theorem sinceClear_append_cleared (history : List Event) :
    sinceClear (history ++ [.cleared]) = [] :=
  List.rtakeWhile_concat_neg _ _ _ (by simp [Event.isCleared])

theorem sinceClear_append_asked (history : List Event) (around : Surroundings)
    (options : Configuration.Options) :
    sinceClear (history ++ [.asked around options]) =
      sinceClear history ++ [.asked around options] :=
  List.rtakeWhile_concat_pos _ _ _ (by simp [Event.isCleared])

/-- What is remembered for a key is the first configuration that was read for it since everything
was last forgotten. -/
theorem remembered?_afterAll (history : List Event) (key : CacheKey) :
    (afterAll history).remembered? key = firstRead? key (sinceClear history) := by
  -- The last event decides: it empties both sides, or adds what it reads behind what is there.
  induction history using List.reverseRecOn with
  | nil => rfl
  | append_singleton history event ih =>
      rw [afterAll_append]
      cases event with
      | cleared =>
          rw [sinceClear_append_cleared]
          exact remembered?_clear
      | asked around options =>
          rw [remembered?_leave_asked (remembers_afterAll history), ih, sinceClear_append_asked,
            firstRead?, firstRead?, List.findSome?_append, List.findSome?_singleton]

/-!
### Unchanged files
-/

/-- As long as the files and programs are the same, what was read first is what is read now. -/
theorem eq_unremembered_of_firstRead? {events : List Event}
    (same : ∀ other asked, Event.asked other asked ∈ events → other.SameFiles around)
    (found : keyOf around options = .ok key) {configuration : Configuration}
    (first : firstRead? key events = some configuration) :
    unremembered around options = .ok configuration := by
  obtain ⟨event, known, read⟩ := List.exists_of_findSome?_eq_some first
  obtain ⟨other, asked, rfl, elsewhere, produced⟩ := Event.read?_eq_some read
  rw [unremembered_of_keyOf elsewhere, Configuration.produce_of_sameFiles (same other asked known)
    (Configuration.isAbsolute_of_locate (locate_of_keyOf elsewhere))] at produced
  rw [unremembered_of_keyOf found, produced]

/-- As long as the files and programs are the same, a provider that remembers answers like one that
does not, whatever was asked before. -/
theorem answer_load_of_sameFiles {history : List Event}
    (same : ∀ other asked, Event.asked other asked ∈ sinceClear history → other.SameFiles around) :
    ((afterAll history).answer (load around options)).1 = unremembered around options := by
  cases found : keyOf around options with
  | error fault =>
      rw [unremembered, answer_load_of_not_found found, answer_load_of_not_found found]
  | ok key =>
      cases first : firstRead? key (sinceClear history) with
      | some configuration =>
          rw [answer_load_of_remembered found ((remembered?_afterAll history key).trans first),
            eq_unremembered_of_firstRead? same found first]
      | none => exact answered_of_unknown found ((remembered?_afterAll history key).trans first)

end

end Provider

end ModuleAlias
