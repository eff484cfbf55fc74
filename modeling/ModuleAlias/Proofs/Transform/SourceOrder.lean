/-
Module: ModuleAlias.Proofs.Transform.SourceOrder
Purpose: The order in which a transform visits the nodes of a tree. Under one configuration its loop
  comes to what the recursion comes to that visits a node and, unless it is replaced, its children
  from left to right. It visits the places that no replaced place stands above, in the order of the
  source, and none of them twice.
Imports: ModuleAlias.Proofs.Replacement.Tours, ModuleAlias.Proofs.Transform.Completeness
Main exports: Transform.IsReplaced, Transform.stops_eq_false_iff,
  Transform.turns_eq_tourFrom, Transform.loop_visits_in_source_order
-/
import ModuleAlias.Proofs.Replacement.Tours
import ModuleAlias.Proofs.Transform.Completeness

namespace ModuleAlias.Transform

open Script Replacement

section
variable {σ : Type} {task : Task} {configurations : ConfigurationSource σ} {state : σ}
  {configuration : Configuration} {place : Place}

/-!
### Visits under one configuration
-/

theorem state_visit (task : Task) (configurations : ConfigurationSource σ) (state : σ)
    (place : Place) :
    (visit task configurations state place).state =
      if isCandidate place.node then (configurations state).2 else state := by
  unfold visit
  split
  · rfl
  · rfl

/-- A state that some requests lead to. -/
def AskedFrom (configurations : ConfigurationSource σ) (state left : σ) : Prop :=
  ∃ count, left = askedTimes configurations state count

theorem askedFrom_start : AskedFrom configurations state state := ⟨0, rfl⟩

theorem askedFrom_visit (task : Task) (left : σ) (place : Place)
    (asked : AskedFrom configurations state left) :
    AskedFrom configurations state (visit task configurations left place).state := by
  obtain ⟨count, rfl⟩ := asked
  rw [state_visit]
  split
  · exact ⟨count + 1, rfl⟩
  · exact ⟨count, rfl⟩

/-- Under one configuration, every visit finds what there is to find under it. -/
theorem finding_visit (answers : AlwaysAnswers configurations state configuration) (task : Task)
    (left : σ) (place : Place) (asked : AskedFrom configurations state left) :
    (visit task configurations left place).finding = findAt task configuration place := by
  obtain ⟨count, rfl⟩ := asked
  unfold visit findAt
  split
  · change (configurations (askedTimes configurations state count)).1.bind
      (findingAt task · place) = _
    rw [answers count]
    rfl
  · rfl

/-!
### The loop and the recursion
-/

/-- Under one configuration, the loop ends after as many turns as the recursion visits places, with
what the recursion visits and records, and in the state that the walk ends in. -/
theorem turns_eq_tourFrom (answers : AlwaysAnswers configurations state configuration)
    (task : Task) (root : Node) :
    let toured := tourFrom (findAt task configuration) [] root
    let loop :=
      (Loop.start state root).turns (visit task configurations) toured.visited.length
    loop.Ended ∧ loop.visited = toured.visited ∧ loop.recorded = toured.recorded ∧
      loop.failure = toured.failure ∧
      loop.state = (walk (visit task configurations) state root).state := by
  intro toured loop
  have same := turns_eq_toursOf (askedFrom_visit task) (finding_visit answers task)
    [Place.root root] askedFrom_start [] []
  rw [toursOf_root] at same
  exact same

/-- Under one configuration, the walk comes to what the recursion comes to. -/
theorem walk_eq_tourFrom (answers : AlwaysAnswers configurations state configuration)
    (task : Task) (root : Node) :
    let toured := tourFrom (findAt task configuration) [] root
    let walked := walk (visit task configurations) state root
    walked.recorded = toured.recorded ∧ walked.failure = toured.failure := by
  intro toured walked
  have same := walkFrom_eq_toursOf (askedFrom_visit task) (finding_visit answers task)
    [Place.root root] askedFrom_start
  rw [toursOf_root] at same
  exact same

/-!
### Places that are replaced
-/

/-- What is decided about the import or call at a place is a replacement. -/
def IsReplaced (task : Task) (configuration : Configuration) (place : Place) : Prop :=
  isCandidate place.node = true ∧
    ∃ outcome replacement, decide task configuration place.around place.node = .ok outcome ∧
      outcome.replacement? = some replacement

/-- A visit stops exactly at the places that are replaced. -/
theorem stops_eq_false_iff :
    stops (findAt task configuration) place = false ↔ ¬ IsReplaced task configuration place := by
  unfold IsReplaced
  by_cases candidate : isCandidate place.node = true
  · cases decided : decide task configuration place.around place.node with
    | error fault =>
        rw [stops, findAt_eq_error_iff.2 ⟨candidate, decided⟩]
        simp
    | ok outcome =>
        rw [stops_of_ok (findAt_of_decide candidate decided)]
        simp [candidate, Option.eq_none_iff_forall_ne_some]
  · simp [stops, findAt, candidate]

end

/-!
### The order of the visits
-/

section
variable {σ : Type} (task : Task) (configurations : ConfigurationSource σ) (state : σ)
  (configuration : Configuration) (root : Node)

/-- The loop of a transform over a tree ends, after no more turns than the tree has nodes. It visits
the same places, records the same replacements and skipped nodes and fails alike as the recursion
that visits a node and stops there if it is replaced, and else goes on into the children from left
to right; and what the loop comes to is what the walk comes to.

The places that are visited stand in a list of all places that no replaced place stands above, each
with the numbers of the children on the way to it, in the order of those numbers. All of them are
visited, one after another, unless a visit fails; then it is the last one. -/
theorem loop_visits_in_source_order
    (answers : AlwaysAnswers configurations state configuration) :
    let toured := tourFrom (findAt task configuration) [] root
    let loop :=
      (Loop.start state root).turns (visit task configurations) toured.visited.length
    let walked := walk (visit task configurations) state root
    (toured.visited.length ≤ root.size ∧ loop.Ended) ∧
      (loop.visited = toured.visited ∧ loop.recorded = toured.recorded ∧
        loop.failure = toured.failure) ∧
      (walked.recorded = loop.recorded ∧ walked.failure = loop.failure ∧
        walked.state = loop.state) ∧
      ∃ listed : List (List Nat × Place),
        (listed.map Prod.fst).Pairwise (· < ·) ∧
        (∀ numbers place, (numbers, place) ∈ listed ↔
          (Place.root root).at? numbers = some place ∧
            ∀ above outer, above <+: numbers → above ≠ numbers →
              (Place.root root).at? above = some outer → ¬ IsReplaced task configuration outer) ∧
        loop.visited <+: listed.map Prod.snd ∧
        (loop.failure = none → loop.visited = listed.map Prod.snd) ∧
        ∀ fault, loop.failure = some fault → ∃ before place, loop.visited = before ++ [place] ∧
          isCandidate place.node = true ∧
          decide task configuration place.around place.node = .error fault := by
  intro toured loop walked
  let numbered := numberedFrom (findAt task configuration) [] root
  obtain ⟨ended, visited, recorded, failure, left⟩ := turns_eq_tourFrom answers task root
  obtain ⟨recorded', failure'⟩ := walk_eq_tourFrom answers task root
  have inTurn : tourFrom (findAt task configuration) [] root =
      Tour.along (findAt task configuration) (numbered.map Prod.snd) := tourFrom_eq_along [] root
  have bounded : toured.visited.length ≤ root.size := length_visited_tourFrom_le [] root
  refine ⟨⟨bounded, ended⟩, ⟨visited, recorded, failure⟩,
    ⟨recorded'.trans recorded.symm, failure'.trans failure.symm, left.symm⟩,
    numbered, pairwise_numberedFrom [] root, ?_, ?_, ?_, ?_⟩
  · intro numbers place
    have listed := @mem_numberedFrom_iff Fault Visited (findAt task configuration)
      (Place.root root) place numbers
    simp only [stops_eq_false_iff] at listed
    exact listed
  · rw [visited, inTurn]
    exact Tour.visited_along_prefix _
  · intro sound
    rw [failure, inTurn] at sound
    rw [visited, inTurn]
    exact Tour.visited_along sound
  · intro fault failed
    rw [failure, inTurn] at failed
    obtain ⟨before, place, visited', fails⟩ := Tour.exists_last_of_failure failed
    obtain ⟨candidate, undecided⟩ := findAt_eq_error_iff.1 fails
    exact ⟨before, place, by rw [visited, inTurn, visited'], candidate, undecided⟩

end

/-- The loop over the nested calls takes three turns, as it does not go on below the outer call. -/
theorem nested_loop_takes_three_turns :
    let loop :=
      (Loop.start () nestedTree.root).turns (visit nestedTask (atHand nestedConfiguration)) 3
    3 < nestedTree.root.size ∧ loop.Ended ∧ loop.visited.length = 3 ∧ loop.failure = none := by
  intro loop
  have answers : AlwaysAnswers (atHand nestedConfiguration) () nestedConfiguration :=
    fun _ => rfl
  obtain ⟨⟨_, ended⟩, ⟨visited, _, failure⟩, _⟩ :=
    loop_visits_in_source_order nestedTask (atHand nestedConfiguration) () nestedConfiguration
      nestedTree.root answers
  let toured := tourFrom (findAt nestedTask nestedConfiguration) [] nestedTree.root
  have three : toured.visited.length = 3 := by decide +kernel
  have sound : toured.failure.isNone = true := by decide +kernel
  have larger : 3 < nestedTree.root.size := by decide +kernel
  rw [three] at ended visited failure
  exact ⟨larger, ended, by rw [visited, three], by rw [failure, Option.isNone_iff_eq_none.1 sound]⟩

end ModuleAlias.Transform
