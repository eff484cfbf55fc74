/-
Module: ModuleAlias.Proofs.Transform.SteadyRuns
Purpose: Runs under one configuration. A provider that has answered a request answers it in the same
  way again while nothing changes around it, so the whole run is under that one configuration. The
  places that its walk comes to then tell whether the walk fails and what it decides about.
Imports: ModuleAlias.Proofs.Transform.SharedProviders, ModuleAlias.Proofs.Replacement.Reach
Main exports: Transform.AlwaysAnswers, Transform.alwaysAnswers_of_answer, Transform.ComesTo,
  Transform.exists_comesTo_of_failure, Transform.mem_recorded_iff
-/
import ModuleAlias.Proofs.Transform.SharedProviders
import ModuleAlias.Proofs.Replacement.Reach

namespace ModuleAlias

open Script Replacement

/-- While nothing changes around it, a provider that has answered a request answers it in the same
way again. -/
theorem Provider.answer_load_again {provider left : Provider} {around : Surroundings}
    {options : Configuration.Options} {configuration : Configuration}
    (answered : provider.answer (load around options) = (.ok configuration, left)) :
    left.answer (load around options) = (.ok configuration, left) := by
  cases remembering : provider.remembers with
  | false =>
      have unchanged : provider = left := by
        rw [answer_load_of_forgetful remembering] at answered
        exact congrArg Prod.snd answered
      exact unchanged ▸ answered
  | true =>
      cases found : keyOf around options with
      | error fault =>
          rw [answer_load_of_not_found found] at answered
          cases answered
      | ok key =>
          exact answer_load_of_remembered found (remembered?_of_answer remembering found answered)

namespace Transform

/-!
### Sources of one configuration
-/

section
variable {σ : Type} {configurations : ConfigurationSource σ} {state : σ}
  {configuration : Configuration}

/-- The state of a source of configurations after a number of requests. -/
def askedTimes (configurations : ConfigurationSource σ) (state : σ) : Nat → σ
  | 0 => state
  | count + 1 => (configurations (askedTimes configurations state count)).2

/-- However often it is asked, a source of configurations answers with the same one. -/
def AlwaysAnswers (configurations : ConfigurationSource σ) (state : σ)
    (configuration : Configuration) : Prop :=
  ∀ count, (configurations (askedTimes configurations state count)).1 = .ok configuration

/-- A provider that answers once always answers the same. -/
theorem alwaysAnswers_of_answer {around : Surroundings} {options : Options} {provider : Provider}
    (answered : (configurationsOf around options provider).1 = .ok configuration) :
    AlwaysAnswers (configurationsOf around options) provider configuration := by
  intro count
  induction count with
  | zero => exact answered
  | succ count ih =>
      have again := Provider.answer_load_again (Prod.ext ih rfl)
      exact congrArg Prod.fst again

/-- A configuration that is at hand. -/
def atHand (configuration : Configuration) : ConfigurationSource Unit := fun _ =>
  (.ok configuration, ())

/-- A walk with a source that always answers the same comes to what it comes to with that
configuration at hand. -/
theorem walk_eq_atHand (answers : AlwaysAnswers configurations state configuration) (task : Task)
    (root : Node) :
    let walked := walk (visit task configurations) state root
    let steady := walk (visit task (atHand configuration)) () root
    walked.recorded = steady.recorded ∧ walked.failure = steady.failure := by
  intro walked steady
  let related : σ → Unit → Prop := fun left _ =>
    ∃ count, left = askedTimes configurations state count
  have alike : ∀ left right, related left right →
      (configurations left).1 = (atHand configuration right).1 ∧
        related (configurations left).2 (atHand configuration right).2 := by
    rintro left right ⟨count, rfl⟩
    exact ⟨answers count, count + 1, rfl⟩
  have begins : related state () := ⟨0, rfl⟩
  obtain ⟨recorded, failure, _⟩ :=
    walkFrom_related (visit_related task alike) [Place.root root] begins
  exact ⟨recorded, failure⟩

end

/-!
### The places that a walk comes to
-/

section
variable {σ : Type} {task : Task} {configurations : ConfigurationSource σ} {state : σ}
  {configuration : Configuration} {root : Node} {place : Place}

/-- What a visit finds at a place under a configuration. -/
def findAt (task : Task) (configuration : Configuration) (place : Place) :
    Except Fault (Finding Visited) :=
  if isCandidate place.node then findingAt task configuration place
  else .ok { recorded := none, descends := true }

/-- Under a configuration, a walk over a tree comes to a place: visits go on from every place above
it. -/
def ComesTo (task : Task) (configuration : Configuration) (root : Node) (place : Place) : Prop :=
  Place.Reached (findAt task configuration) place (Place.root root)

theorem finding_visit_atHand (task : Task) (configuration : Configuration) (state : Unit)
    (place : Place) :
    (visit task (atHand configuration) state place).finding =
      findAt task configuration place := by
  unfold visit findAt
  split
  · rfl
  · rfl

theorem reachedFrom_root_iff {find : Place → Except Fault (Finding Visited)} :
    ReachedFrom find [Place.root root] place ↔ place.Reached find (Place.root root) := by
  simp [ReachedFrom]

/-- A visit fails exactly at a candidate about which nothing can be decided. -/
theorem findAt_eq_error_iff {fault : Fault} :
    findAt task configuration place = .error fault ↔
      isCandidate place.node = true ∧
        decide task configuration place.around place.node = .error fault := by
  unfold findAt findingAt
  split
  · rename_i candidate
    cases decide task configuration place.around place.node with
    | error fault' => simp [candidate, bind, Except.bind]
    | ok outcome => simp [bind, Except.bind, pure, Except.pure]
  · rename_i other
    simp [other]

/-- A visit records what is decided about a candidate, and goes on unless that is replaced. -/
theorem findAt_of_decide {outcome : Outcome} (candidate : isCandidate place.node = true)
    (decided : decide task configuration place.around place.node = .ok outcome) :
    findAt task configuration place =
      .ok { recorded := some { node := place.node, outcome },
            descends := outcome.replacement?.isNone } := by
  rw [findAt, if_pos candidate, findingAt, decided]
  rfl

/-- Visits do not go on exactly below candidates that are replaced or that they fail at. -/
theorem not_goesOn_iff :
    ¬ place.GoesOn (findAt task configuration) ↔
      isCandidate place.node = true ∧
        ∀ outcome, decide task configuration place.around place.node = .ok outcome →
          outcome.replacement?.isSome = true := by
  unfold Place.GoesOn
  by_cases candidate : isCandidate place.node = true
  · cases decided : decide task configuration place.around place.node with
    | error fault =>
        rw [findAt_eq_error_iff.2 ⟨candidate, decided⟩]
        simp [candidate]
    | ok outcome =>
        rw [findAt_of_decide candidate decided]
        simp [candidate, Option.isSome_iff_ne_none]
  · simp [findAt, candidate]

/-- A walk under one configuration fails only at a candidate that it comes to and about which
nothing can be decided. -/
theorem exists_comesTo_of_failure (answers : AlwaysAnswers configurations state configuration)
    {fault : Fault}
    (failed : (walk (visit task configurations) state root).failure = some fault) :
    ∃ place, ComesTo task configuration root place ∧ isCandidate place.node = true ∧
      decide task configuration place.around place.node = .error fault := by
  rw [(walk_eq_atHand answers task root).2] at failed
  obtain ⟨place, reached, fails⟩ :=
    exists_reached_of_failure (finding_visit_atHand task configuration) failed
  exact ⟨place, reachedFrom_root_iff.1 reached, findAt_eq_error_iff.1 fails⟩

/-- A walk under one configuration does not fail if something can be decided about every candidate
that it comes to. -/
theorem failure_eq_none_iff (answers : AlwaysAnswers configurations state configuration) :
    (walk (visit task configurations) state root).failure = none ↔
      ∀ place, ComesTo task configuration root place → isCandidate place.node = true →
        ∃ outcome, decide task configuration place.around place.node = .ok outcome := by
  rw [(walk_eq_atHand answers task root).2, walk,
    failure_walkFrom_eq_none_iff (finding_visit_atHand task configuration)]
  constructor
  · intro finds place comes candidate
    obtain ⟨finding, found⟩ := finds place (reachedFrom_root_iff.2 comes)
    cases decided : decide task configuration place.around place.node with
    | ok outcome => exact ⟨outcome, rfl⟩
    | error fault =>
        rw [findAt_eq_error_iff.2 ⟨candidate, decided⟩] at found
        cases found
  · intro decides place reached
    cases found : findAt task configuration place with
    | ok finding => exact ⟨finding, rfl⟩
    | error fault =>
        obtain ⟨candidate, fails⟩ := findAt_eq_error_iff.1 found
        obtain ⟨outcome, decided⟩ := decides place (reachedFrom_root_iff.1 reached) candidate
        rw [decided] at fails
        cases fails

/-- A walk under one configuration that does not fail records what is decided about the candidates
that it comes to. -/
theorem mem_recorded_iff (answers : AlwaysAnswers configurations state configuration)
    (sound : (walk (visit task configurations) state root).failure = none)
    {visited : Visited} :
    visited ∈ (walk (visit task configurations) state root).recorded ↔
      ∃ place, ComesTo task configuration root place ∧ isCandidate place.node = true ∧
        visited.node = place.node ∧
        decide task configuration place.around place.node = .ok visited.outcome := by
  obtain ⟨recorded, failure⟩ := walk_eq_atHand answers task root
  rw [failure] at sound
  obtain ⟨_, records⟩ :=
    reached_of_failure_eq_none (finding_visit_atHand task configuration) sound
  rw [recorded, walk, records visited]
  constructor
  · rintro ⟨place, finding, reached, found, here⟩
    refine ⟨place, reachedFrom_root_iff.1 reached, ?_⟩
    by_cases candidate : isCandidate place.node = true
    · cases decided : decide task configuration place.around place.node with
      | error fault =>
          rw [findAt_eq_error_iff.2 ⟨candidate, decided⟩] at found
          cases found
      | ok outcome =>
          rw [findAt_of_decide candidate decided] at found
          cases found
          cases here
          exact ⟨candidate, rfl, rfl⟩
    · rw [findAt, if_neg candidate] at found
      cases found
      cases here
  · rintro ⟨place, comes, candidate, same, decided⟩
    refine ⟨place, _, reachedFrom_root_iff.2 comes, findAt_of_decide candidate decided, ?_⟩
    rw [← same]
    rfl

end

end Transform

end ModuleAlias
