/-
Module: ModuleAlias.Proofs.Path.Distance
Purpose: How far two places in the tree of directories are apart. A route goes from place to place by
  single steps, up or down to a name; at the root a step up leads nowhere. The steps between two
  lists of names are a route, go up to the last place that both ways share, and no route is shorter:
  each step changes the number of steps that are left by at most one.
Imports: ModuleAlias.Proofs.Path.Route
Main exports: Path.IsRoute, Path.LeadsBy, Path.leadsBy_iff, Path.PartAfter,
  Path.partAfter_take_shared, Path.leadsBy_steps, Path.LeadsBy.length_steps_le
-/
import ModuleAlias.Proofs.Path.Route

namespace ModuleAlias.Path

/-- Single steps, up or down to a name, lead one after the other from one place to another. A place
is the list of the names on the way to it from the root. -/
inductive IsRoute : List Text → List Text → List Text → Prop where
  | stay (place : List Text) : IsRoute place [] place
  | down {place goal more : List Text} {name : Text} (isName : IsName name)
      (rest : IsRoute (place ++ [name]) more goal) : IsRoute place (name :: more) goal
  | climb {place goal more : List Text} {name : Text} (rest : IsRoute place more goal) :
      IsRoute (place ++ [name]) (up :: more) goal
  | climbAtRoot {goal more : List Text} (rest : IsRoute [] more goal) :
      IsRoute [] (up :: more) goal

/-- Every step of a route leads up or to a name, and settling the steps in turn leads to its end. -/
theorem IsRoute.settles {origin goal route : List Text} (isRoute : IsRoute origin route goal)
    (proper : ∀ name ∈ origin, IsName name) :
    (∀ step ∈ route, step = up ∨ IsName step) ∧
      route.foldl (settle true) origin.reverse = goal.reverse := by
  induction isRoute with
  | stay place => simp
  | @down place goal more name isName rest ih =>
      obtain ⟨steps, leads⟩ :=
        ih (List.forall_mem_append.2 ⟨proper, List.forall_mem_singleton.2 isName⟩)
      rw [List.foldl_cons, settle_name isName, ← List.reverse_concat]
      exact ⟨List.forall_mem_cons.2 ⟨Or.inr isName, steps⟩, leads⟩
  | @climb place goal more name rest ih =>
      obtain ⟨properPlace, properName⟩ := List.forall_mem_append.1 proper
      obtain ⟨steps, leads⟩ := ih properPlace
      rw [List.foldl_cons, List.reverse_concat,
        settle_up_cons (List.forall_mem_singleton.1 properName)]
      exact ⟨List.forall_mem_cons.2 ⟨Or.inl rfl, steps⟩, leads⟩
  | climbAtRoot rest ih =>
      obtain ⟨steps, leads⟩ := ih proper
      rw [List.foldl_cons, List.reverse_nil, settle_up_nil]
      exact ⟨List.forall_mem_cons.2 ⟨Or.inl rfl, steps⟩, leads⟩

/-- Segments that each lead up or to a name are a route to the place that they lead to. -/
theorem isRoute_of_settles {origin goal route : List Text} (proper : ∀ name ∈ origin, IsName name)
    (steps : ∀ step ∈ route, step = up ∨ IsName step)
    (leads : route.foldl (settle true) origin.reverse = goal.reverse) :
    IsRoute origin route goal := by
  induction route generalizing origin with
  | nil =>
      rw [List.reverse_inj.1 leads]
      apply IsRoute.stay
  | cons step route ih =>
      obtain ⟨first, others⟩ := List.forall_mem_cons.1 steps
      rw [List.foldl_cons] at leads
      rcases first with rfl | isName
      · -- What a step up does depends on whether there is a name to take away.
        rcases List.eq_nil_or_concat origin with rfl | ⟨place, name, rfl⟩
        · rw [List.reverse_nil, settle_up_nil] at leads
          apply IsRoute.climbAtRoot
          exact ih proper others leads
        · rw [List.concat_eq_append] at proper leads ⊢
          obtain ⟨properPlace, properName⟩ := List.forall_mem_append.1 proper
          rw [List.reverse_concat, settle_up_cons (List.forall_mem_singleton.1 properName)] at leads
          apply IsRoute.climb
          exact ih properPlace others leads
      · rw [settle_name isName, ← List.reverse_concat] at leads
        apply IsRoute.down isName
        exact ih (List.forall_mem_append.2 ⟨proper, List.forall_mem_singleton.2 isName⟩) others leads

/-- Written behind a path, steps up and down to names lead to a place: to the names that the path
has then. -/
structure LeadsBy (directory : Text) (route goal : List Text) : Prop where
  clean : ∀ step ∈ route, slash ∉ step
  steps : ∀ step ∈ route, step = up ∨ IsName step
  leads : names (directory ++ slash :: Text.join slash route) = goal

/-- Steps written behind an absolute path lead to the end of the route that they are. -/
theorem leadsBy_iff {directory : Text} (absolute : isAbsolute directory = true)
    {route goal : List Text} :
    LeadsBy directory route goal ↔
      (∀ step ∈ route, slash ∉ step) ∧ IsRoute (names directory) route goal := by
  have proper : ∀ name ∈ names directory, IsName name :=
    fun _ known => isName_of_mem_names absolute known
  have walked : (∀ step ∈ route, slash ∉ step) →
      names (directory ++ slash :: Text.join slash route) =
        (route.foldl (settle true) (names directory).reverse).reverse := by
    intro clean
    rw [names_eq_reverse_traverse (isAbsolute_append absolute _), traverse_append_slash,
      traverse_join clean, names_eq_reverse_traverse absolute, List.reverse_reverse]
  constructor
  · rintro ⟨clean, steps, leads⟩
    rw [walked clean, List.reverse_eq_iff] at leads
    exact ⟨clean, isRoute_of_settles proper steps leads⟩
  · rintro ⟨clean, isRoute⟩
    obtain ⟨steps, leads⟩ := isRoute.settles proper
    refine ⟨clean, steps, ?_⟩
    rw [walked clean, List.reverse_eq_iff]
    exact leads

/-!
### Where two ways part
-/

/-- Two ways go together along a list of names, and no further. -/
structure PartAfter (common origin goal : List Text) : Prop where
  beginsOrigin : common <+: origin
  beginsGoal : common <+: goal
  longest : ∀ front, front <+: origin → front <+: goal → front <+: common

/-- What two lists both begin with is no longer than the number of names that they share. -/
theorem length_le_shared {front origin goal : List Text} (beginsOrigin : front <+: origin)
    (beginsGoal : front <+: goal) : front.length ≤ shared origin goal := by
  induction front generalizing origin goal with
  | nil => exact Nat.zero_le _
  | cons name front ih =>
      obtain ⟨moreOrigin, rfl⟩ := beginsOrigin
      obtain ⟨moreGoal, rfl⟩ := beginsGoal
      have rest := ih (List.prefix_append front moreOrigin) (List.prefix_append front moreGoal)
      rw [List.cons_append, List.cons_append, shared, if_pos rfl]
      exact Nat.succ_le_succ rest

/-- Two ways part after the names that they share. -/
theorem partAfter_take_shared (origin goal : List Text) :
    PartAfter (goal.take (shared origin goal)) origin goal where
  beginsOrigin := take_shared origin goal ▸ List.take_prefix _ _
  beginsGoal := List.take_prefix _ _
  longest _ beginsOrigin beginsGoal :=
    List.prefix_take_iff.2 ⟨beginsGoal, length_le_shared beginsOrigin beginsGoal⟩

theorem shared_le_length_goal (origin goal : List Text) : shared origin goal ≤ goal.length := by
  have taken := congrArg List.length (take_shared origin goal)
  have bound := shared_le_length origin goal
  rw [List.length_take, List.length_take] at taken
  omega

@[simp] theorem shared_self (place : List Text) : shared place place = place.length := by
  induction place with
  | nil => rfl
  | cons name place ih => rw [shared, if_pos rfl, ih, List.length_cons]

/-- One name more is shared, or none. -/
theorem shared_concat (place goal : List Text) (name : Text) :
    shared place goal ≤ shared (place ++ [name]) goal ∧
      shared (place ++ [name]) goal ≤ shared place goal + 1 := by
  induction place generalizing goal with
  | nil =>
      cases goal with
      | nil => simp [shared]
      | cons other goal =>
          by_cases same : name = other
          · simp [shared, same]
          · simp [shared, same]
  | cons first place ih =>
      cases goal with
      | nil => simp [shared]
      | cons other goal =>
          by_cases same : first = other
          · simpa [shared, same] using ih goal
          · simp [shared, same]

/-!
### The number of steps
-/

theorem length_steps (origin goal : List Text) :
    (steps origin goal).length =
      (origin.length - shared origin goal) + (goal.length - shared origin goal) := by
  simp [steps]

@[simp] theorem steps_self (place : List Text) : steps place place = [] := by
  simp [steps]

/-- Between different places there is a step to take. -/
theorem steps_eq_nil_iff {origin goal : List Text} : steps origin goal = [] ↔ origin = goal := by
  constructor
  · intro none
    have count := length_steps origin goal
    rw [none, List.length_nil] at count
    have taken := take_shared origin goal
    rwa [List.take_of_length_le (by omega), List.take_of_length_le (by omega)] at taken
  · rintro rfl
    exact steps_self origin

/-- What spells the steps between two places: a full stop if they are one, the joined steps if not. -/
theorem spelled_steps (origin goal : List Text) :
    spelled (steps origin goal) =
      if origin = goal then here else Text.join slash (steps origin goal) := by
  by_cases same : origin = goal
  · rw [if_pos same, steps_eq_nil_iff.2 same, spelled]
  · obtain ⟨step, more, route⟩ := List.exists_cons_of_ne_nil (mt steps_eq_nil_iff.1 same)
    rw [if_neg same, route, spelled]

/-- The steps go up from where the ways part, and then down. -/
theorem steps_eq_replicate_append (origin goal : List Text) :
    steps origin goal =
      List.replicate (origin.length - (goal.take (shared origin goal)).length) up ++
        goal.drop (shared origin goal) := by
  rw [List.length_take_of_le (shared_le_length_goal origin goal)]
  rfl

/-- From a place and from one directly below it, the numbers of steps to a goal differ by at most
one. -/
theorem length_steps_concat (place goal : List Text) (name : Text) :
    (steps (place ++ [name]) goal).length ≤ (steps place goal).length + 1 ∧
      (steps place goal).length ≤ (steps (place ++ [name]) goal).length + 1 := by
  have sharing := shared_concat place goal name
  have boundOrigin := shared_le_length place goal
  have boundBelow := shared_le_length (place ++ [name]) goal
  have boundGoal := shared_le_length_goal (place ++ [name]) goal
  rw [length_steps, length_steps]
  rw [List.length_append, List.length_singleton] at boundBelow ⊢
  omega

/-- The steps between two lists of names are a route. -/
theorem isRoute_steps {origin goal : List Text} (properOrigin : ∀ name ∈ origin, IsName name)
    (properGoal : ∀ name ∈ goal, IsName name) : IsRoute origin (steps origin goal) goal := by
  apply isRoute_of_settles properOrigin
  · intro step known
    exact (mem_steps known).imp_right (properGoal step)
  · exact foldl_settle_steps properOrigin properGoal

/-- No route is shorter than the steps between its ends. -/
theorem length_steps_le_of_isRoute {origin goal route : List Text}
    (isRoute : IsRoute origin route goal) : (steps origin goal).length ≤ route.length := by
  induction isRoute with
  | stay place => simp
  | @down place goal more name isName rest ih =>
      have near := length_steps_concat place goal name
      rw [List.length_cons]
      omega
  | @climb place goal more name rest ih =>
      have near := length_steps_concat place goal name
      rw [List.length_cons]
      omega
  | climbAtRoot rest ih => exact Nat.le_succ_of_le ih

section
variable {directory : Text} (absoluteDirectory : isAbsolute directory = true)

include absoluteDirectory

/-- Written behind a directory, the steps to a path lead to the path. -/
theorem leadsBy_steps {path : Text} (absolutePath : isAbsolute path = true) :
    LeadsBy directory (steps (names directory) (names path)) (names path) := by
  apply (leadsBy_iff absoluteDirectory).2
  constructor
  · intro step known
    exact slash_not_mem_of_mem_steps absolutePath known
  · apply isRoute_steps
    · intro name known
      exact isName_of_mem_names absoluteDirectory known
    · intro name known
      exact isName_of_mem_names absolutePath known

/-- Whatever steps lead from a directory to a place, they are not fewer than those between the
names. -/
theorem LeadsBy.length_steps_le {route goal : List Text} (leads : LeadsBy directory route goal) :
    (Path.steps (names directory) goal).length ≤ route.length := by
  obtain ⟨_, isRoute⟩ := (leadsBy_iff absoluteDirectory).1 leads
  exact length_steps_le_of_isRoute isRoute

end

end ModuleAlias.Path
