/-
Module: ModuleAlias.Proofs.Transform.Requests
Purpose: When a run asks for its configuration, and what it is answered. A run asks at each import
  and each call that it comes to, so it asks at all exactly if its tree holds one: nothing that is
  replaced can hide the first of them. The fault of the first answer ends the run; after an answer
  with a configuration no later one differs.
Imports: ModuleAlias.Proofs.Transform.Asking, ModuleAlias.Proofs.Transform.Returning
Main exports: Transform.recording, Transform.answersDuring, Transform.answersDuring_eq_nil_iff,
  Transform.configuration_needed_iff
-/
import ModuleAlias.Proofs.Transform.Asking
import ModuleAlias.Proofs.Transform.Returning

namespace ModuleAlias.Transform

open Script Replacement

section
variable {σ : Type} {task : Task} {configurations : ConfigurationSource σ} {filename : Text}
  {text : String} {tree : Tree text}

/-!
### The answers of a run
-/

/-- A source of configurations that also keeps its answers, in the order in which it gave them. -/
def recording (configurations : ConfigurationSource σ) :
    ConfigurationSource (σ × List (Except Fault Configuration)) :=
  fun (state, answers) =>
    let (answer, left) := configurations state
    (answer, left, answers ++ [answer])

/-- What a run over a tree is answered when it asks for its configuration, in order. -/
def answersDuring (task : Task) (configurations : ConfigurationSource σ) (filename : Text)
    (text : String) (tree : Tree text) (state : σ) : List (Except Fault Configuration) :=
  (runTree task (recording configurations) filename text tree (state, [])).state.2

/-- A visit asks at an import or a call, and nowhere else. -/
theorem answers_visit (kept : σ × List (Except Fault Configuration)) (place : Place) :
    (visit task (recording configurations) kept place).state.2 =
      if isCandidate place.node then kept.2 ++ [(configurations kept.1).1] else kept.2 := by
  unfold visit
  split
  · rfl
  · rfl

/-- At a node that is no import and no call a visit finds nothing and goes on. -/
theorem visit_of_not_candidate {state : σ} {place : Place}
    (other : isCandidate place.node = false) :
    visit task configurations state place =
      { state, finding := .ok { recorded := none, descends := true } } := by
  rw [visit, if_neg (Bool.eq_false_iff.1 other)]

/-- A walk adds to the answers, and adds nothing exactly if there is no import or call below the
places that it starts from. -/
theorem exists_answers_walkFrom (kept : σ × List (Except Fault Configuration))
    (places : List Place) :
    ∃ more,
      (walkFrom (visit task (recording configurations)) kept places).state.2 = kept.2 ++ more ∧
        (more = [] ↔ Node.anyAsks (places.map Place.node) = false) := by
  induction kept, places using walkFrom_induction (visit task (recording configurations)) with
  | done kept =>
      refine ⟨[], ?_, ?_⟩
      · rw [walkFrom_nil, List.append_nil]
      · simp [Node.anyAsks]
  | failed kept place places failure fails =>
      cases candidate : isCandidate place.node with
      | false =>
          rw [visit_of_not_candidate candidate] at fails
          cases fails
      | true =>
          refine ⟨[(configurations kept.1).1], ?_, ?_⟩
          · rw [walkFrom_cons_of_error fails, answers_visit, if_pos candidate]
          · simp [Node.anyAsks, Node.asks_eq, candidate]
  | found kept place places finding finds rest =>
      obtain ⟨more, added, nothing⟩ := rest
      rw [walkFrom_cons_of_ok finds]
      dsimp only
      rw [added, answers_visit]
      cases candidate : isCandidate place.node with
      | false =>
          refine ⟨more, by simp, ?_⟩
          rw [visit_of_not_candidate candidate] at finds
          cases finds
          rw [nothing, nextPlaces_of_descends rfl]
          simp [Node.anyAsks, Node.anyAsks_append, Node.asks_eq, candidate]
      | true =>
          refine ⟨(configurations kept.1).1 :: more, by simp, ?_⟩
          simp [Node.anyAsks, Node.asks_eq, candidate]

/-- A walk below which there is no import and no call leaves everything as it is. -/
theorem walkFrom_of_not_asks {state : σ} {places : List Place}
    (nothing : Node.anyAsks (places.map Place.node) = false) :
    walkFrom (visit task configurations) state places =
      { recorded := [], state, failure := none } := by
  induction state, places using walkFrom_induction (visit task configurations) with
  | done state => exact walkFrom_nil
  | failed state place places failure fails =>
      rw [List.map_cons, Node.anyAsks, Node.asks_eq, Bool.or_assoc, Bool.or_eq_false_iff] at nothing
      rw [visit_of_not_candidate nothing.1] at fails
      cases fails
  | found state place places finding finds rest =>
      rw [List.map_cons, Node.anyAsks, Node.asks_eq, Bool.or_assoc, Bool.or_eq_false_iff] at nothing
      rw [walkFrom_cons_of_ok finds]
      rw [visit_of_not_candidate nothing.1] at finds rest ⊢
      cases finds
      have below : Node.anyAsks ((place.children ++ places).map Place.node) = false := by
        rw [List.map_append, Place.map_node_children, Node.anyAsks_append]
        exact nothing.2
      dsimp only at rest ⊢
      rw [nextPlaces_of_descends rfl] at rest ⊢
      rw [rest below]
      rfl

/-- A run over a tree without imports and calls returns the text as it is. -/
theorem runTree_of_not_asks {state : σ} (nothing : tree.root.asks = false) :
    runTree task configurations filename text tree state =
      { hasErrors := tree.hasErrors
        visited := []
        state
        result := .ok { filename, code := text, replacements := [] } } := by
  have root : Node.anyAsks ([Place.root tree.root].map Place.node) = false := by
    simpa [Node.anyAsks, Place.root] using nothing
  simp only [runTree, walk, walkFrom_of_not_asks root]
  rfl

/-- A run asks for its configuration exactly if there is an import or a call in its tree. -/
theorem answersDuring_eq_nil_iff (state : σ) :
    answersDuring task configurations filename text tree state = [] ↔ tree.root.asks = false := by
  obtain ⟨more, added, nothing⟩ := @exists_answers_walkFrom σ task configurations (state, [])
    [Place.root tree.root]
  have same : answersDuring task configurations filename text tree state = more := added
  rw [same, nothing]
  simp [Node.anyAsks, Place.root]

/-- A request that fails is not made again. -/
theorem answersDuring_of_error {state after : σ} {fault : Fault}
    (failed : configurations state = (.error fault, after)) (asks : tree.root.asks = true) :
    answersDuring task configurations filename text tree state = [.error fault] := by
  have recorded : recording configurations (state, []) =
      (.error fault, after, [.error fault]) := by
    simp only [recording, failed]
    rfl
  rw [answersDuring, runTree_of_error recorded]
  simp only [asks, if_true]

end

/-!
### A provider that answers
-/

section
variable {task : Task} {around : Surroundings} {options : Options} {provider : Provider}
  {filename : Text} {text : String} {tree : Tree text} {configuration : Configuration}

/-- After an answer with a configuration, a provider gives no other one for the rest of the run. -/
theorem eq_ok_of_mem_answersDuring
    (loaded : (configurationsOf around options provider).1 = .ok configuration)
    {answer : Except Fault Configuration}
    (known : answer ∈ answersDuring task (configurationsOf around options) filename text tree
      provider) : answer = .ok configuration := by
  let holds : Provider × List (Except Fault Configuration) → Prop := fun kept =>
    (configurationsOf around options kept.1).1 = .ok configuration ∧
      ∀ answer ∈ kept.2, answer = .ok configuration
  have keeps : ∀ kept place, holds kept → holds
      (visit task (recording (configurationsOf around options)) kept place).state := by
    rintro ⟨left, answers⟩ place ⟨answered, agree⟩
    unfold visit
    split
    · refine ⟨congrArg Prod.fst (Provider.answer_load_again (Prod.ext answered rfl)), ?_⟩
      intro answer known
      rcases List.mem_append.1 known with earlier | now
      · exact agree answer earlier
      · rw [List.mem_singleton.1 now]
        exact answered
    · exact ⟨answered, agree⟩
  have begins : holds (provider, []) := ⟨loaded, fun _ known => absurd known List.not_mem_nil⟩
  exact (holds_state_walkFrom keeps [Place.root tree.root] begins).2 answer known

/-- A run that is given a configuration does not fail for want of one. -/
theorem result_ne_configuration
    (whole : task.source = Source.ofString text)
    (loaded : (configurationsOf around options provider).1 = .ok configuration) (path : Text)
    (flaw : Option ConfigurationFlaw) :
    (runTree task (configurationsOf around options) filename text tree provider).result ≠
      .error (.configuration path flaw) := by
  intro failed
  have answers := alwaysAnswers_of_answer loaded
  rcases fault_cases_of_runTree answers whole failed with large | unwritten
  · cases large
  · cases unwritten

end

section
variable (around : Surroundings) (options : Options) (provider : Provider)
  (dependencies : Dependencies) (filename : Text) (text : String) (tree : Tree text)

/-- The configuration is needed exactly if there is an import or a call somewhere in the tree,
whatever it names. A transform fails because the configuration cannot be used if and only if a
request for it fails so at that moment and there is one. Without any, the configuration is never
asked for and the text is returned as it is. A request that fails is not made again, and it is what
the transform fails with; after one that does not fail, all later ones are answered alike. -/
theorem configuration_needed_iff :
    let task : Task :=
      { source := Source.ofString text
        importer := Alias.Importer.ofFile around.process filename options.working
        dependencies
        globalObject := options.globalObject }
    let configurations := configurationsOf around options
    let run := runTree task configurations filename text tree provider
    let answers := answersDuring task configurations filename text tree provider
    let loaded := (provider.answer (Provider.load around options.configuration)).1
    let needed := ∃ node : Node, node.Inside tree.root ∧
      (node.kind = .importStatement ∨ node.kind = .callExpression)
    (∀ path flaw, run.result = .error (.configuration path flaw) ↔
        loaded = .error (.configuration path flaw) ∧ needed) ∧
      (¬ needed → answers = [] ∧ run.state = provider ∧
        run.result = .ok { filename, code := text, replacements := [] }) ∧
      (needed → ∀ fault, loaded = .error fault →
        answers = [.error fault] ∧ run.result = .error fault) ∧
      (needed → ∀ configuration, loaded = .ok configuration →
        answers ≠ [] ∧ ∀ answer ∈ answers, answer = .ok configuration) := by
  intro task configurations run answers loaded needed
  have asks : tree.root.asks = true ↔ needed := by
    rw [Node.asks_iff]
    simp only [needed, isCandidate, Bool.or_eq_true, beq_iff_eq]
  have whole : task.source = Source.ofString text := rfl
  have idle (unneeded : ¬ needed) : run = _ :=
    runTree_of_not_asks (Bool.eq_false_iff.2 (mt asks.1 unneeded))
  have refused (fault : Fault) (answered : loaded = .error fault) :
      configurations provider = (.error fault, provider) :=
    Prod.ext answered (Provider.answer_load_error (Prod.ext answered rfl))
  refine ⟨?fails, ?unneeded, ?once, ?alike⟩
  case fails =>
    intro path flaw
    cases answered : loaded with
    | ok configuration =>
        have sound : run.result ≠ .error (.configuration path flaw) :=
          result_ne_configuration whole answered path flaw
        simp [sound]
    | error fault =>
        rw [show run = _ from runTree_of_error (refused fault answered) filename tree, ← asks]
        cases tree.root.asks with
        | true => simp
        | false => simp
  case unneeded =>
    intro unneeded
    refine ⟨?_, ?_, ?_⟩
    · exact (answersDuring_eq_nil_iff provider).2 (Bool.eq_false_iff.2 (mt asks.1 unneeded))
    · rw [idle unneeded]
    · rw [idle unneeded]
  case once =>
    intro isNeeded fault answered
    refine ⟨answersDuring_of_error (refused fault answered) (asks.2 isNeeded), ?_⟩
    rw [show run = _ from runTree_of_error (refused fault answered) filename tree]
    simp only [asks.2 isNeeded, if_true]
  case alike =>
    intro isNeeded configuration answered
    constructor
    · intro none
      have silent := (answersDuring_eq_nil_iff provider).1 none
      rw [asks.2 isNeeded] at silent
      cases silent
    · intro answer known
      exact eq_ok_of_mem_answersDuring answered known

end

/-- A call of any function misses a configuration that is not there, and a text without calls does
not. -/
theorem call_misses_configuration :
    let transform : Transform := { options := {}, dependencies := Dependencies.none }
    let around := Provider.targetAround "./m"
    (transform.runSource around "f(1)" "/p/a.js" {}).result =
        .error (.configuration "/p/webpack.config.js" none) ∧
      ((transform.runSource around "f + 1" "/p/a.js" {}).result.toOption.map Result.code) =
        some "f + 1" := by
  intro transform around
  have missing : (Provider.answer {} (Provider.load around transform.options.configuration)).1 =
      .error (.configuration "/p/webpack.config.js" none) := by rfl
  constructor
  · have called : (Tree.ofSource .javascript "f(1)").root.asks = true := by decide +kernel
    obtain ⟨node, inside, candidate⟩ := (Node.asks_iff _).1 called
    have isCall : node.kind = .importStatement ∨ node.kind = .callExpression := by
      simpa [isCandidate] using candidate
    exact ((configuration_needed_iff around transform.options {} Dependencies.none "/p/a.js" "f(1)"
      (Tree.ofSource .javascript "f(1)")).1 _ _).2 ⟨missing, node, inside, isCall⟩
  · have uncalled : (Tree.ofSource .javascript "f + 1").root.asks = false := by decide +kernel
    have nothing : ¬ ∃ node : Node, node.Inside (Tree.ofSource .javascript "f + 1").root ∧
        (node.kind = .importStatement ∨ node.kind = .callExpression) := by
      rintro ⟨node, inside, candidate⟩
      have asks := (Node.asks_iff _).2 ⟨node, inside, by simpa [isCandidate] using candidate⟩
      rw [uncalled] at asks
      cases asks
    obtain ⟨_, _, returned⟩ := (configuration_needed_iff around transform.options {}
      Dependencies.none "/p/a.js" "f + 1" (Tree.ofSource .javascript "f + 1")).2.1 nothing
    have same : (transform.runSource around "f + 1" "/p/a.js" {}).result = _ := returned
    rw [same]
    rfl

end ModuleAlias.Transform
