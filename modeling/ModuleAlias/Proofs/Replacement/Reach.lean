/-
Module: ModuleAlias.Proofs.Replacement.Reach
Purpose: Which places of a tree a walk comes to. When visits find the same in every state, a walk
  reaches a place exactly if every place above it was gone into; it fails exactly if a place that it
  reaches fails, and records what is found at the places that it reaches. A place that is not
  reached lies below a place that was reached and not gone into.
Imports: ModuleAlias.Proofs.Replacement.Walks, ModuleAlias.Proofs.Script.Nesting,
  Mathlib.Data.List.Infix
Main exports: Replacement.Place.Within, Replacement.Place.Reached, Replacement.Place.Reached.goesOn,
  Replacement.Place.reached_or_exists_cut, Replacement.Place.nested_or_apart,
  Replacement.ReachedFrom, Replacement.failure_walkFrom_eq_none_iff,
  Replacement.reached_of_failure_eq_none
-/
import Mathlib.Data.List.Infix
import ModuleAlias.Proofs.Replacement.Walks
import ModuleAlias.Proofs.Script.Nesting

namespace ModuleAlias.Replacement

open Script

namespace Place

/-!
### Places within places
-/

/-- A place is within another one: it is that place, or is within one of its children. -/
inductive Within (inner : Place) : Place → Prop where
  | itself : Within inner inner
  | deeper {child outer : Place} (nested : Within inner child) (known : child ∈ outer.children) :
      Within inner outer

/-- The place that is found by going on into the child with each of some numbers. -/
def at? (place : Place) : List Nat → Option Place
  | [] => some place
  | number :: numbers => place.children[number]?.bind fun child => child.at? numbers

theorem within_of_at? {inner outer : Place} {numbers : List Nat}
    (found : outer.at? numbers = some inner) : Within inner outer := by
  induction numbers generalizing outer with
  | nil =>
      cases found
      exact .itself
  | cons number numbers ih =>
      obtain ⟨child, known, found'⟩ := Option.bind_eq_some_iff.1 found
      exact .deeper (ih found') (List.mem_of_getElem? known)

/-- The nodes on the way from a place out to the root, its own node first. -/
def path (place : Place) : List Node := place.node :: place.around

theorem eq_of_path_eq {first second : Place} (same : first.path = second.path) :
    first = second := by
  cases first
  cases second
  obtain ⟨rfl, rfl⟩ := List.cons.inj same
  rfl

section
variable {inner outer child root : Place}

theorem node_mem_of_mem_children (known : child ∈ outer.children) :
    child.node ∈ outer.node.children := by
  obtain ⟨node, isChild, rfl⟩ := List.mem_map.1 known
  exact isChild

theorem path_of_mem_children (known : child ∈ outer.children) :
    child.path = child.node :: outer.path := by
  obtain ⟨node, _, rfl⟩ := List.mem_map.1 known
  rfl

/-- Children of one place are the same if their nodes are. -/
theorem eq_of_mem_children {other : Place} (known : child ∈ outer.children)
    (known' : other ∈ outer.children) (same : child.node = other.node) : child = other := by
  apply eq_of_path_eq
  rw [path_of_mem_children known, path_of_mem_children known', same]

theorem Within.trans {middle : Place} (first : Within inner middle)
    (second : Within middle outer) : Within inner outer := by
  induction second with
  | itself => exact first
  | deeper _ known ih => exact .deeper ih known

theorem Within.inside (within : Within inner outer) : inner.node.Inside outer.node := by
  induction within with
  | itself => exact .itself
  | deeper _ known ih => exact .deeper ih (node_mem_of_mem_children known)

/-- The way out from an inner place goes on along the way out from the outer one. -/
theorem Within.suffix (within : Within inner outer) : outer.path <:+ inner.path := by
  induction within with
  | itself => exact List.suffix_rfl
  | deeper _ known ih =>
      rename_i child outer _
      rw [path_of_mem_children known] at ih
      exact (List.suffix_cons child.node outer.path).trans ih

/-- What is within a child of a place is not that place. -/
theorem Within.ne_of_mem_children (within : Within inner child) (known : child ∈ outer.children) :
    inner ≠ outer := by
  rintro rfl
  have longer := within.suffix.length_le
  rw [path_of_mem_children known, List.length_cons] at longer
  omega

theorem Within.antisymm (first : Within inner outer) (second : Within outer inner) :
    inner = outer :=
  eq_of_path_eq
    (second.suffix.eq_of_length (Nat.le_antisymm second.suffix.length_le first.suffix.length_le))

/-- What is properly within a place has a smaller tree. -/
theorem Within.size_lt (within : Within inner outer) (proper : inner ≠ outer) :
    inner.node.size < outer.node.size := by
  induction within with
  | itself => exact absurd rfl proper
  | deeper _ known ih =>
      rename_i child outer _
      have smaller := Node.size_lt_of_mem (node_mem_of_mem_children known)
      by_cases same : inner = child
      · exact same ▸ smaller
      · exact (ih same).trans smaller

/-- A place lies within one child of another place at most. -/
theorem Within.unique_child {other : Place} (first : Within inner child)
    (second : Within inner other) (known : child ∈ outer.children)
    (known' : other ∈ outer.children) : child = other := by
  have lengths : child.path.length = other.path.length := by
    rw [path_of_mem_children known, path_of_mem_children known', List.length_cons,
      List.length_cons]
  have nested : child.path <:+ other.path :=
    List.suffix_of_suffix_length_le first.suffix second.suffix (Nat.le_of_eq lengths)
  exact eq_of_path_eq (nested.eq_of_length lengths)

/-- In a tree over a text, of two places one is within the other, or one ends before the other
begins. -/
theorem nested_or_apart {text : String} {low high : Nat} {first second : Place}
    (lies : root.node.LiesOver text low high) (within : Within first root)
    (within' : Within second root) :
    Within first second ∨ Within second first ∨
      first.node.stop ≤ second.node.start ∨ second.node.stop ≤ first.node.start := by
  induction within generalizing low high with
  | itself => exact Or.inr (Or.inl within')
  | deeper nested known ih =>
      rename_i child outer
      cases within' with
      | itself => exact Or.inl (.deeper nested known)
      | deeper nested' known' =>
          rename_i other
          have isChild := node_mem_of_mem_children known
          have isChild' := node_mem_of_mem_children known'
          by_cases same : child.node = other.node
          · rw [← eq_of_mem_children known known' same] at nested'
            exact ih (lies.children.of_mem isChild) nested'
          · have here := (lies.children.of_mem isChild).of_inside nested.inside
            have there := (lies.children.of_mem isChild').of_inside nested'.inside
            have bounds := here.bounds
            have bounds' := there.bounds
            rcases lies.children.apart isChild isChild' same with before | after
            · exact Or.inr (Or.inr (Or.inl (by omega)))
            · exact Or.inr (Or.inr (Or.inr (by omega)))

end

/-!
### Places that are reached
-/

section
variable {ε α : Type} {find : Place → Except ε (Finding α)} {inner middle outer root : Place}

/-- A visit goes on from a place into its children. -/
def GoesOn (find : Place → Except ε (Finding α)) (place : Place) : Prop :=
  ∃ finding, find place = .ok finding ∧ finding.descends = true

/-- A place is reached from another one: it is that place, or visits go on from that place and reach
it from one of the children. -/
inductive Reached (find : Place → Except ε (Finding α)) (inner : Place) : Place → Prop where
  | itself : Reached find inner inner
  | deeper {child outer : Place} (goesOn : GoesOn find outer) (nested : Reached find inner child)
      (known : child ∈ outer.children) : Reached find inner outer

theorem Reached.within (reached : Reached find inner outer) : Within inner outer := by
  induction reached with
  | itself => exact .itself
  | deeper _ _ known ih => exact .deeper ih known

/-- Visits go on from every place above one that is reached. -/
theorem Reached.goesOn (reached : Reached find inner root) (within : Within inner middle)
    (below : Within middle root) (proper : inner ≠ middle) : GoesOn find middle := by
  induction reached with
  | itself => exact absurd (within.antisymm below) proper
  | deeper goesOn nested known ih =>
      cases below with
      | itself => exact goesOn
      | deeper below' known' =>
          rename_i child _ other
          have same : child = other :=
            nested.within.unique_child (within.trans below') known known'
          exact ih (same ▸ below')

/-- A place that is not reached is within one that is reached and not gone into. -/
theorem reached_or_exists_cut (within : Within inner root) :
    Reached find inner root ∨
      ∃ middle, Reached find middle root ∧ ¬ GoesOn find middle ∧ Within inner middle ∧
        inner ≠ middle := by
  induction within with
  | itself => exact Or.inl .itself
  | deeper nested known ih =>
      rename_i child outer
      by_cases goesOn : GoesOn find outer
      · rcases ih with reached | ⟨middle, reached, cut, below, proper⟩
        · exact Or.inl (.deeper goesOn reached known)
        · exact Or.inr ⟨middle, .deeper goesOn reached known, cut, below, proper⟩
      · exact Or.inr ⟨outer, .itself, goesOn, .deeper nested known,
          nested.ne_of_mem_children known⟩

end

end Place

/-!
### Walks that come to them
-/

section
variable {σ ε α : Type} {visit : σ → Place → Visit σ ε α}
  {find : Place → Except ε (Finding α)}

/-- A place is reached from one of the places on a stack. -/
def ReachedFrom (find : Place → Except ε (Finding α)) (places : List Place) (place : Place) :
    Prop :=
  ∃ outer ∈ places, Place.Reached find place outer

theorem not_reachedFrom_nil (place : Place) : ¬ ReachedFrom find [] place := by
  rintro ⟨outer, known, _⟩
  exact absurd known List.not_mem_nil

/-- From the top of a stack the same is reached as from what is visited next. -/
theorem reachedFrom_cons_iff {top : Place} {places : List Place} {finding : Finding α}
    (found : find top = .ok finding) (place : Place) :
    ReachedFrom find (top :: places) place ↔
      place = top ∨ ReachedFrom find (nextPlaces finding top places) place := by
  constructor
  · rintro ⟨outer, known, reached⟩
    rcases List.mem_cons.1 known with rfl | below
    · cases reached with
      | itself => exact Or.inl rfl
      | deeper goesOn nested isChild =>
          rename_i child
          obtain ⟨finding', found', descends⟩ := goesOn
          obtain rfl := Except.ok.inj (found.symm.trans found')
          refine Or.inr ⟨child, ?_, nested⟩
          rw [nextPlaces, if_pos descends]
          exact List.mem_append_left places isChild
    · refine Or.inr ⟨outer, ?_, reached⟩
      unfold nextPlaces
      split
      · exact List.mem_append_right _ below
      · exact below
  · rintro (rfl | ⟨outer, known, reached⟩)
    · exact ⟨place, List.mem_cons_self, .itself⟩
    · unfold nextPlaces at known
      split at known
      · rename_i descends
        rcases List.mem_append.1 known with isChild | below
        · exact ⟨top, List.mem_cons_self, .deeper ⟨finding, found, descends⟩ reached isChild⟩
        · exact ⟨outer, List.mem_cons_of_mem _ below, reached⟩
      · exact ⟨outer, List.mem_cons_of_mem _ known, reached⟩

/-- A walk that is ended by a failure reached a place that fails so. -/
theorem exists_reached_of_failure (steady : ∀ state place, (visit state place).finding = find place)
    {state : σ} {places : List Place} {failure : ε}
    (failed : (walkFrom visit state places).failure = some failure) :
    ∃ place, ReachedFrom find places place ∧ find place = .error failure := by
  induction state, places using walkFrom_induction visit with
  | done state =>
      rw [walkFrom_nil] at failed
      cases failed
  | failed state top places failure' fails =>
      rw [walkFrom_cons_of_error fails] at failed
      cases failed
      exact ⟨top, ⟨top, List.mem_cons_self, .itself⟩, (steady state top).symm.trans fails⟩
  | found state top places finding finds rest =>
      rw [walkFrom_cons_of_ok finds] at failed
      obtain ⟨place, reached, fails⟩ := rest failed
      have finds' : find top = .ok finding := (steady state top).symm.trans finds
      exact ⟨place, (reachedFrom_cons_iff finds' place).2 (Or.inr reached), fails⟩

/-- A walk that no failure ends found something at every place that it reaches, and recorded exactly
what it found there. -/
theorem reached_of_failure_eq_none
    (steady : ∀ state place, (visit state place).finding = find place) {state : σ}
    {places : List Place} (sound : (walkFrom visit state places).failure = none) :
    (∀ place, ReachedFrom find places place → ∃ finding, find place = .ok finding) ∧
      ∀ item, item ∈ (walkFrom visit state places).recorded ↔
        ∃ place finding, ReachedFrom find places place ∧ find place = .ok finding ∧
          item ∈ finding.recorded := by
  induction state, places using walkFrom_induction visit with
  | done state =>
      rw [walkFrom_nil]
      constructor
      · intro place reached
        exact absurd reached (not_reachedFrom_nil place)
      · intro item
        constructor
        · intro known
          exact absurd known List.not_mem_nil
        · rintro ⟨place, _, reached, _⟩
          exact absurd reached (not_reachedFrom_nil place)
  | failed state top places failure fails =>
      rw [walkFrom_cons_of_error fails] at sound
      cases sound
  | found state top places finding finds rest =>
      have finds' : find top = .ok finding := (steady state top).symm.trans finds
      rw [walkFrom_cons_of_ok finds] at sound ⊢
      obtain ⟨answers, records⟩ := rest sound
      constructor
      · intro place reached
        rcases (reachedFrom_cons_iff finds' place).1 reached with rfl | later
        · exact ⟨finding, finds'⟩
        · exact answers place later
      · intro item
        dsimp only
        rw [List.mem_append, Option.mem_toList, records item]
        constructor
        · rintro (here | ⟨place, finding', reached, found, recorded⟩)
          · exact ⟨top, finding, ⟨top, List.mem_cons_self, .itself⟩, finds', here⟩
          · exact ⟨place, finding', (reachedFrom_cons_iff finds' place).2 (Or.inr reached), found,
              recorded⟩
        · rintro ⟨place, finding', reached, found, recorded⟩
          rcases (reachedFrom_cons_iff finds' place).1 reached with rfl | later
          · obtain rfl := Except.ok.inj (finds'.symm.trans found)
            exact Or.inl recorded
          · exact Or.inr ⟨place, finding', later, found, recorded⟩

/-- No failure ends a walk if and only if no place that it reaches fails. -/
theorem failure_walkFrom_eq_none_iff
    (steady : ∀ state place, (visit state place).finding = find place) {state : σ}
    {places : List Place} :
    (walkFrom visit state places).failure = none ↔
      ∀ place, ReachedFrom find places place → ∃ finding, find place = .ok finding := by
  constructor
  · intro sound
    exact (reached_of_failure_eq_none steady sound).1
  · intro finds
    cases outcome : (walkFrom visit state places).failure with
    | none => rfl
    | some failure =>
        obtain ⟨place, reached, fails⟩ := exists_reached_of_failure steady outcome
        obtain ⟨finding, found⟩ := finds place reached
        rw [found] at fails
        cases fails

end

end ModuleAlias.Replacement
