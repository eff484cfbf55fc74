/-
Module: ModuleAlias.Proofs.Replacement.Walks
Purpose: What walks over a tree keep. A walk takes one step after another, each of which either ends
  it or leads to the places that are visited next; what is said of walks is proved along these steps.
  Visits that find the same in related states, and leave related states behind, make for walks that
  record the same; and what a walk records was found by a visit in a state with every property that
  visits keep.
Imports: ModuleAlias.Replacement.Walk
Main exports: Replacement.walkFrom_induction, Replacement.walkFrom_related,
  Replacement.holds_state_walkFrom, Replacement.exists_visit_of_mem_recorded
-/
import ModuleAlias.Replacement.Walk

namespace ModuleAlias.Replacement

/-- The children of a place are the places of the children of its node. -/
@[simp] theorem Place.map_node_children (place : Place) :
    place.children.map Place.node = place.node.children := by
  simp [Place.children, Function.comp_def]

variable {σ τ ε α : Type}

/-!
### One step of a walk
-/

section
variable {visit : σ → Place → Visit σ ε α} {state : σ} {place : Place} {places : List Place}

theorem walkFrom_nil :
    walkFrom visit state [] = { recorded := [], state, failure := none } := by
  rw [walkFrom]

theorem walkFrom_cons_of_error {failure : ε}
    (failed : (visit state place).finding = .error failure) :
    walkFrom visit state (place :: places) =
      { recorded := [], state := (visit state place).state, failure := some failure } := by
  rw [walkFrom]
  simp only [failed]

/-- The places that are visited next: the children come before what was on the stack. -/
def nextPlaces (finding : Finding α) (place : Place) (places : List Place) : List Place :=
  if finding.descends then place.children ++ places else places

theorem nextPlaces_of_descends {finding : Finding α} (descends : finding.descends = true)
    (place : Place) (places : List Place) :
    nextPlaces finding place places = place.children ++ places :=
  if_pos descends

theorem nextPlaces_of_stays {finding : Finding α} (stays : finding.descends = false)
    (place : Place) (places : List Place) : nextPlaces finding place places = places := by
  rw [nextPlaces, stays, if_neg Bool.false_ne_true]

theorem walkFrom_cons_of_ok {finding : Finding α}
    (found : (visit state place).finding = .ok finding) :
    walkFrom visit state (place :: places) =
      let rest := walkFrom visit (visit state place).state (nextPlaces finding place places)
      { rest with recorded := finding.recorded.toList ++ rest.recorded } := by
  rw [walkFrom]
  simp only [found, nextPlaces]
  split
  · rfl
  · rfl

end

/-- Induction along a walk. The steps that are to be followed are the end of the stack, a visit that
fails, and one that finds something, behind which come the places that are visited next. -/
@[elab_as_elim]
theorem walkFrom_induction (visit : σ → Place → Visit σ ε α) {motive : σ → List Place → Prop}
    (done : ∀ state, motive state [])
    (failed : ∀ state place places failure, (visit state place).finding = .error failure →
      motive state (place :: places))
    (found : ∀ state place places finding, (visit state place).finding = .ok finding →
      motive (visit state place).state (nextPlaces finding place places) →
      motive state (place :: places))
    (state : σ) (places : List Place) : motive state places := by
  fun_induction walkFrom visit state places
  case case1 state => exact done state
  case case2 state place places visited failure fails =>
    exact failed state place places failure fails
  case case3 state place places visited finding finds rest below beside =>
    refine found state place places finding finds ?_
    unfold nextPlaces
    split
    · exact below
    · exact beside

/-!
### Whole walks
-/

/-- Two walks record the same and fail alike if their visits find the same in related states, and
leave related states behind. -/
theorem walkFrom_related {visit : σ → Place → Visit σ ε α} {visit' : τ → Place → Visit τ ε α}
    {related : σ → τ → Prop}
    (alike : ∀ state state' place, related state state' →
      (visit state place).finding = (visit' state' place).finding ∧
        related (visit state place).state (visit' state' place).state)
    {state : σ} {state' : τ} (places : List Place) (begins : related state state') :
    (walkFrom visit state places).recorded = (walkFrom visit' state' places).recorded ∧
      (walkFrom visit state places).failure = (walkFrom visit' state' places).failure ∧
      related (walkFrom visit state places).state (walkFrom visit' state' places).state := by
  induction state, places using walkFrom_induction visit generalizing state' with
  | done state =>
      rw [walkFrom_nil, walkFrom_nil]
      exact ⟨rfl, rfl, begins⟩
  | failed state place places failure fails =>
      obtain ⟨same, after⟩ := alike state state' place begins
      rw [walkFrom_cons_of_error fails, walkFrom_cons_of_error (same.symm.trans fails)]
      exact ⟨rfl, rfl, after⟩
  | found state place places finding finds rest =>
      obtain ⟨same, after⟩ := alike state state' place begins
      obtain ⟨recorded, failure, ends⟩ := rest after
      rw [walkFrom_cons_of_ok finds, walkFrom_cons_of_ok (same.symm.trans finds)]
      exact ⟨congrArg (finding.recorded.toList ++ ·) recorded, failure, ends⟩

/-- A property that visits keep holds of the state that a walk ends in. -/
theorem holds_state_walkFrom {visit : σ → Place → Visit σ ε α} {holds : σ → Prop}
    (keeps : ∀ state place, holds state → holds (visit state place).state) {state : σ}
    (places : List Place) (begins : holds state) : holds (walkFrom visit state places).state := by
  induction state, places using walkFrom_induction visit with
  | done state =>
      rw [walkFrom_nil]
      exact begins
  | failed state place places failure fails =>
      rw [walkFrom_cons_of_error fails]
      exact keeps state place begins
  | found state place places finding finds rest =>
      rw [walkFrom_cons_of_ok finds]
      exact rest (keeps state place begins)

/-- What a walk records was found by a visit in a state with a property that visits keep. -/
theorem exists_visit_of_mem_recorded {visit : σ → Place → Visit σ ε α} {holds : σ → Prop}
    (keeps : ∀ state place, holds state → holds (visit state place).state) {state : σ}
    {places : List Place} (begins : holds state) {item : α}
    (known : item ∈ (walkFrom visit state places).recorded) :
    ∃ state' place finding, holds state' ∧ (visit state' place).finding = .ok finding ∧
      item ∈ finding.recorded := by
  induction state, places using walkFrom_induction visit with
  | done state =>
      rw [walkFrom_nil] at known
      exact absurd known List.not_mem_nil
  | failed state place places failure fails =>
      rw [walkFrom_cons_of_error fails] at known
      exact absurd known List.not_mem_nil
  | found state place places finding finds rest =>
      rw [walkFrom_cons_of_ok finds] at known
      rcases List.mem_append.1 known with here | later
      · exact ⟨state, place, finding, begins, finds, Option.mem_toList.1 here⟩
      · exact rest (keeps state place begins) later

end ModuleAlias.Replacement
