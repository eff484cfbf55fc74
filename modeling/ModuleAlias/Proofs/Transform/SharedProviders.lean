/-
Module: ModuleAlias.Proofs.Transform.SharedProviders
Purpose: Transforms that share a provider. A run over a file is one more piece of the provider's
  history; as long as the files stay as they are, it finds in each file what it would find with a
  provider that remembers nothing.
Imports: ModuleAlias.Script.Tree, ModuleAlias.Transform, ModuleAlias.Proofs.Configuration.Histories,
  ModuleAlias.Proofs.Replacement.Walks
Main exports: Transform.runFile_related, Transform.exists_decide_of_mem_visited,
  Provider.answer_after_history
-/
import ModuleAlias.Script.Tree
import ModuleAlias.Transform
import ModuleAlias.Proofs.Configuration.Histories
import ModuleAlias.Proofs.Replacement.Walks

namespace ModuleAlias

open Script Replacement

namespace Transform

/-!
### Runs from related states
-/

section
variable {σ τ : Type} {task : Task} {configurations : ConfigurationSource σ}
  {configurations' : ConfigurationSource τ} {related : σ → τ → Prop}

/-- Visits find the same where their configurations are the same. -/
theorem visit_related (task : Task)
    (alike : ∀ state state', related state state' →
      (configurations state).1 = (configurations' state').1 ∧
        related (configurations state).2 (configurations' state').2)
    (state : σ) (state' : τ) (place : Place) (begins : related state state') :
    (visit task configurations state place).finding =
        (visit task configurations' state' place).finding ∧
      related (visit task configurations state place).state
        (visit task configurations' state' place).state := by
  obtain ⟨same, ends⟩ := alike state state' begins
  unfold visit
  split
  · exact ⟨by simp only [same], ends⟩
  · exact ⟨rfl, begins⟩

/-- Runs with the same configurations come to the same. -/
theorem runTree_related
    (alike : ∀ state state', related state state' →
      (configurations state).1 = (configurations' state').1 ∧
        related (configurations state).2 (configurations' state').2)
    (filename : Text) (text : String) (tree : Tree text) {state : σ} {state' : τ}
    (begins : related state state') :
    let run := runTree task configurations filename text tree state
    let run' := runTree task configurations' filename text tree state'
    run.hasErrors = run'.hasErrors ∧ run.visited = run'.visited ∧ run.result = run'.result ∧
      related run.state run'.state := by
  intro run run'
  obtain ⟨recorded, failure, ends⟩ :=
    walkFrom_related (visit_related task alike) [Place.root tree.root] begins
  refine ⟨rfl, recorded, ?_, ends⟩
  simp only [run, run', runTree, walk, recorded, failure]
  rfl

end

/-- Runs over a file come to the same if both providers always answer the same. -/
theorem runFile_related {transform : Transform} {around : Surroundings}
    {related : Provider → Provider → Prop}
    (alike : ∀ provider provider' : Provider, related provider provider' →
      let request := Provider.load around transform.options.configuration
      (provider.answer request).1 = (provider'.answer request).1 ∧
        related (provider.answer request).2 (provider'.answer request).2)
    (path : Text) {provider provider' : Provider} (begins : related provider provider') :
    let run := transform.runFile around path provider
    let run' := transform.runFile around path provider'
    run.hasErrors = run'.hasErrors ∧ run.visited = run'.visited ∧ run.result = run'.result ∧
      related run.state run'.state := by
  intro run run'
  simp only [run, run', runFile]
  cases openFile around path with
  | error fault => exact ⟨rfl, rfl, rfl, begins⟩
  | ok opened =>
      obtain ⟨text, filename⟩ := opened
      exact runTree_related (fun state state' => alike state state') filename text _ begins

/-- What is recorded of a run was decided about a candidate under a configuration that was answered
in a state with a property that requests keep. -/
theorem exists_decide_of_mem_visited {σ : Type} {task : Task}
    {configurations : ConfigurationSource σ} {filename : Text} {text : String} {tree : Tree text}
    {state : σ} {holds : σ → Prop}
    (keeps : ∀ state, holds state → holds (configurations state).2) (begins : holds state)
    {visited : Visited}
    (known : visited ∈ (runTree task configurations filename text tree state).visited) :
    ∃ state' configuration around, holds state' ∧
      (configurations state').1 = .ok configuration ∧ isCandidate visited.node = true ∧
      decide task configuration around visited.node = .ok visited.outcome := by
  have kept : ∀ state place, holds state → holds (visit task configurations state place).state := by
    intro state place held
    unfold visit
    split
    · exact keeps state held
    · exact held
  obtain ⟨state', place, finding, held, found, recorded⟩ :=
    exists_visit_of_mem_recorded kept begins known
  unfold visit at found
  split at found
  · rename_i candidate
    obtain ⟨configuration, answered, found⟩ := exists_of_bind_eq_ok found
    obtain ⟨outcome, decided, found⟩ := exists_of_bind_eq_ok found
    cases found
    cases recorded
    exact ⟨state', configuration, place.around, held, answered, candidate, decided⟩
  · cases found
    cases recorded

end Transform

namespace Provider

/-!
### One provider for many requests and files
-/

section
variable {history : List Event} {around : Surroundings} {options : Configuration.Options}

/-- A history that goes on with requests in some surroundings. -/
def askedOften (history : List Event) (around : Surroundings) (options : Configuration.Options)
    (count : Nat) : List Event :=
  history ++ List.replicate count (.asked around options)

theorem askedOften_succ (count : Nat) :
    askedOften history around options (count + 1) =
      askedOften history around options count ++ [.asked around options] := by
  rw [askedOften, askedOften, List.replicate_succ', List.append_assoc]

theorem sameFiles_askedOften
    (same : ∀ other asked, Event.asked other asked ∈ sinceClear history → other.SameFiles around)
    (count : Nat) :
    ∀ other asked, Event.asked other asked ∈ sinceClear (askedOften history around options count) →
      other.SameFiles around := by
  induction count with
  | zero => simpa [askedOften] using same
  | succ count ih =>
      intro other asked known
      rw [askedOften_succ, sinceClear_append_asked, List.mem_append] at known
      rcases known with before | now
      · exact ih other asked before
      · cases List.mem_singleton.1 now
        exact ⟨rfl, rfl⟩

/-- While the files stay as they are, a run with a provider that remembers comes to the same as one
with a provider that does not. It asks for its configuration a number of times, and nothing else
happens to the provider. -/
theorem runFile_afterAll
    (same : ∀ other asked, Event.asked other asked ∈ sinceClear history → other.SameFiles around)
    (transform : Transform) (path : Text) :
    let run := transform.runFile around path (afterAll history)
    let alone := transform.runFile around path { remembers := false }
    run.hasErrors = alone.hasErrors ∧ run.visited = alone.visited ∧ run.result = alone.result ∧
      ∃ count, run.state =
        afterAll (askedOften history around transform.options.configuration count) := by
  let asked := transform.options.configuration
  -- At every visit the history has gone on with requests that find the same files.
  let related : Provider → Provider → Prop := fun provider forgetful =>
    (∃ count, provider = afterAll (askedOften history around asked count)) ∧
      forgetful.remembers = false
  have alike : ∀ provider forgetful : Provider, related provider forgetful →
      (provider.answer (load around asked)).1 = (forgetful.answer (load around asked)).1 ∧
        related (provider.answer (load around asked)).2
          (forgetful.answer (load around asked)).2 := by
    rintro provider forgetful ⟨⟨count, rfl⟩, forgets⟩
    rw [answer_load_of_forgetful forgets]
    refine ⟨answer_load_of_sameFiles (sameFiles_askedOften same count), ⟨count + 1, ?_⟩, forgets⟩
    rw [askedOften_succ, afterAll_append]
    rfl
  have begins : related (afterAll history) { remembers := false } :=
    ⟨⟨0, by simp [askedOften]⟩, rfl⟩
  obtain ⟨hasErrors, visited, result, ⟨left, _⟩⟩ :=
    Transform.runFile_related alike path begins
  exact ⟨hasErrors, visited, result, left⟩

/-- A provider without a history answers as if it remembered nothing. -/
theorem answered_of_fresh (around : Surroundings) (options : Configuration.Options) :
    (Provider.answer {} (load around options)).1 = unremembered around options := by
  have nothing : ∀ other asked, Event.asked other asked ∈ sinceClear [] →
      other.SameFiles around := by simp [sinceClear]
  exact answer_load_of_sameFiles nothing

end

/-- What a provider answers after any history. If the file that is asked for is not there, this is
reported, whatever is remembered. Otherwise the answer is what was read first for its path and
environment since everything was last forgotten, or what is read now. A request that fails leaves
the provider as it was. And while the files stay as they are, all that came before makes no
difference, neither for the answer nor for what a transform makes of any file. -/
theorem answer_after_history (history : List Event) (around : Surroundings)
    (options : Configuration.Options) :
    let provider := afterAll history
    let request := provider.answer (load around options)
    (∀ fault, keyOf around options = .error fault →
        request.1 = .error fault ∧
          ∃ path, fault.report? = some (.configurationNotFound path none)) ∧
      (∀ key, keyOf around options = .ok key →
        request.1 =
          match firstRead? key (sinceClear history) with
          | some configuration => .ok configuration
          | none => unremembered around options) ∧
      (∀ fault, request.1 = .error fault → request.2 = provider) ∧
      ((∀ other asked, Event.asked other asked ∈ sinceClear history → other.SameFiles around) →
        request.1 = unremembered around options ∧
          ∀ (transform : Transform) (path : Text),
            let run := transform.runFile around path provider
            let alone := transform.runFile around path { remembers := false }
            run.hasErrors = alone.hasErrors ∧ run.visited = alone.visited ∧
              run.result = alone.result ∧
              ∃ count, run.state =
                afterAll (askedOften history around transform.options.configuration count)) := by
  intro provider request
  refine ⟨?notFound, ?found, ?failed, ?unchanged⟩
  case notFound =>
    intro fault missing
    have answered : request = (.error fault, provider) := answer_load_of_not_found missing
    exact ⟨by rw [answered], report?_of_keyOf_error missing⟩
  case found =>
    intro key found
    have known := remembered?_afterAll history key
    cases first : firstRead? key (sinceClear history) with
    | some configuration =>
        have answered : request = (.ok configuration, provider) :=
          answer_load_of_remembered found (known.trans first)
        rw [answered]
    | none => exact answered_of_unknown found (known.trans first)
  case failed =>
    intro fault failed
    exact answer_load_error (Prod.ext failed rfl)
  case unchanged =>
    intro same
    exact ⟨answer_load_of_sameFiles same, runFile_afterAll same⟩

/-- In a run over a text, every node is decided about under the configuration that is there when
nothing is remembered. -/
theorem exists_decide_of_mem_runSource {transform : Transform} {around : Surroundings}
    {text : String} {filename : Text} {visited : Transform.Visited}
    (known : visited ∈ (transform.runSource around text filename {}).visited) :
    ∃ configuration nodes,
      unremembered around transform.options.configuration = .ok configuration ∧
      decide
        { source := Source.ofString text
          importer := Alias.Importer.ofFile around.process filename transform.options.working
          dependencies := transform.dependencies
          globalObject := transform.options.globalObject }
        configuration nodes visited.node = .ok visited.outcome := by
  let asked := transform.options.configuration
  let holds : Provider → Prop := fun provider =>
    ∃ count, provider = afterAll (askedOften [] around asked count)
  have keeps : ∀ provider, holds provider → holds (provider.answer (load around asked)).2 := by
    rintro provider ⟨count, rfl⟩
    refine ⟨count + 1, ?_⟩
    rw [askedOften_succ, afterAll_append]
    rfl
  obtain ⟨provider, configuration, nodes, ⟨count, rfl⟩, answered, _, decided⟩ :=
    Transform.exists_decide_of_mem_visited keeps ⟨0, rfl⟩ known
  refine ⟨configuration, nodes, ?_, decided⟩
  rw [← answered]
  exact (answer_load_of_sameFiles (sameFiles_askedOften (by simp [sinceClear]) count)).symm

/-!
### A configuration file that changes
-/

/-- Surroundings with a configuration file that gives one alias a target. -/
def targetAround (target : String) : Surroundings where
  store :=
    { items :=
        [(["p"], .directory),
          (["p", "c.json"],
            .file ("\x7b\"resolve\":\x7b\"alias\":\x7b\"l\":\"" ++ target ++
              "\"\x7d\x7d\x7d").toUTF8)] }
  process := "/p"
  environment := none
  evaluators :=
    { executable := "node"
      evaluate := fun _ _ => .noEvaluator
      importModule := fun _ => .error [] }
  parse := Script.Tree.ofSource

/-- The targets of the aliases that are answered to a request. -/
def targetsOf (answered : Except Fault Configuration) : Option (List Text) :=
  answered.toOption.map fun configuration => configuration.aliases.entries.map (·.target)

/-- What a file said before it changed counts until everything is forgotten. -/
theorem changed_file_counts_after_clear :
    let asked : Configuration.Options := { name := "c.json" }
    let before := Event.asked (targetAround "./old") asked
    let request := load (targetAround "./new") asked
    targetsOf ((afterAll [before]).answer request).1 = some [Text.ofString "./old"] ∧
      targetsOf ((afterAll [before, .cleared]).answer request).1 =
        some [Text.ofString "./new"] := by
  intro asked before request
  constructor
  · have known : (keyOf (targetAround "./new") asked).toOption =
        some { path := "/p/c.json", environment := none } := by decide +kernel
    cases found : keyOf (targetAround "./new") asked with
    | error fault => simp [found, Except.toOption] at known
    | ok key =>
        have same : key = { path := "/p/c.json", environment := none } := by
          simpa [found, Except.toOption] using known
        obtain ⟨_, answered, _⟩ := answer_after_history [before] (targetAround "./new") asked
        rw [answered key found, same]
        decide +kernel
  · have forgotten : sinceClear [before, .cleared] = [] := by decide +kernel
    obtain ⟨_, _, _, unchanged⟩ :=
      answer_after_history [before, .cleared] (targetAround "./new") asked
    have answered := (unchanged (by simp [forgotten])).1
    rw [answered]
    decide +kernel

end Provider

end ModuleAlias
