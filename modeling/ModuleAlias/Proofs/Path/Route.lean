/-
Module: ModuleAlias.Proofs.Path.Route
Purpose: The relative path from a directory to a path. It goes up to the last directory that both
  lie in and down from there, so that walked from the directory it ends where the path leads.
Imports: ModuleAlias.Proofs.Path.Settling
Main exports: Path.foldl_settle_steps, Path.spelled, Path.between_of_isAbsolute,
  Path.traverse_spelled_steps, Path.mem_spelled_steps
-/
import ModuleAlias.Proofs.Path.Settling

namespace ModuleAlias.Path

/-!
### Steps between lists of names
-/

/-- Two lists begin alike as far as they share their names. -/
theorem take_shared (origin goal : List Text) :
    origin.take (shared origin goal) = goal.take (shared origin goal) := by
  induction origin generalizing goal with
  | nil => simp [shared]
  | cons first origin ih =>
      cases goal with
      | nil => simp [shared]
      | cons second goal =>
          by_cases same : first = second
          · simp [shared, same, ih goal]
          · simp [shared, same]

theorem shared_le_length (origin goal : List Text) : shared origin goal ≤ origin.length := by
  induction origin generalizing goal with
  | nil => simp [shared]
  | cons first origin ih =>
      cases goal with
      | nil => simp [shared]
      | cons second goal =>
          by_cases same : first = second
          · simpa [shared, same] using ih goal
          · simp [shared, same]

/-- A step leads up or to a name of the goal. -/
theorem mem_steps {origin goal : List Text} {step : Text} (known : step ∈ steps origin goal) :
    step = up ∨ step ∈ goal := by
  rcases List.mem_append.1 known with above | below
  · exact Or.inl (List.eq_of_mem_replicate above)
  · exact Or.inr (List.mem_of_mem_drop below)

/-- The steps from one list of names lead to the other. -/
theorem foldl_settle_steps {origin goal : List Text} (properOrigin : ∀ name ∈ origin, IsName name)
    (properGoal : ∀ name ∈ goal, IsName name) :
    (steps origin goal).foldl (settle true) origin.reverse = goal.reverse := by
  have climbed : origin.reverse.drop (origin.length - shared origin goal) =
      (goal.take (shared origin goal)).reverse := by
    rw [← take_shared, List.drop_reverse]
    have := shared_le_length origin goal
    congr 2
    omega
  have properStack : ∀ name ∈ origin.reverse, IsName name :=
    fun name known => properOrigin name (List.mem_reverse.1 known)
  have properRest : ∀ name ∈ goal.drop (shared origin goal), IsName name :=
    fun name known => properGoal name (List.mem_of_mem_drop known)
  rw [steps, List.foldl_append, foldl_settle_ups properStack, climbed,
    foldl_settle_names properRest, ← List.reverse_append, List.take_append_drop]

/-!
### Relative paths
-/

/-- The relative path that spells some steps; without any it stays where it is. -/
def spelled : List Text → Text
  | [] => here
  | step :: more => Text.join slash (step :: more)

theorem traverse_spelled {route : List Text} (clean : ∀ step ∈ route, slash ∉ step)
    (stack : List Text) : traverse stack (spelled route) = route.foldl (settle true) stack := by
  cases route with
  | nil => exact traverse_here stack
  | cons step more => exact traverse_join clean stack

/-- Spelled steps begin with the first one, and a slash stands after it if there are more. -/
theorem exists_spelled_cons_eq (step : Text) (more : List Text) :
    ∃ after, spelled (step :: more) = step ++ after ∧
      (after = [] ∨ ∃ path, after = slash :: path) := by
  cases more with
  | nil => exact ⟨[], (List.append_nil step).symm, Or.inl rfl⟩
  | cons next more => exact ⟨_, rfl, Or.inr ⟨_, rfl⟩⟩

section
variable {path directory : Text} (process : Text)

/-- Between absolute paths, the relative path spells the steps between their names. -/
theorem between_of_isAbsolute (absolutePath : isAbsolute path = true)
    (absoluteDirectory : isAbsolute directory = true) :
    between process path directory = spelled (steps (names directory) (names path)) := by
  rw [between, components_of_isAbsolute absolutePath, components_of_isAbsolute absoluteDirectory]
  cases steps (names directory) (names path) with
  | nil => rfl
  | cons step more => rfl

theorem isName_of_mem_names (absolutePath : isAbsolute path = true) {name : Text}
    (known : name ∈ names path) : IsName name := by
  rw [names_eq_reverse_traverse absolutePath, List.mem_reverse] at known
  exact isName_of_mem_traverse known

theorem slash_not_mem_of_mem_names (absolutePath : isAbsolute path = true) {name : Text}
    (known : name ∈ names path) : slash ∉ name := by
  rw [names_eq_reverse_traverse absolutePath, List.mem_reverse] at known
  exact slash_not_mem_of_mem_traverse known

theorem slash_not_mem_of_mem_steps (absolutePath : isAbsolute path = true) {origin : List Text}
    {step : Text} (known : step ∈ steps origin (names path)) : slash ∉ step := by
  rcases mem_steps known with rfl | name
  · decide
  · exact slash_not_mem_of_mem_names absolutePath name

/-- Walked from a directory, the steps between the names end where the path leads. -/
theorem traverse_spelled_steps (absolutePath : isAbsolute path = true)
    (absoluteDirectory : isAbsolute directory = true) :
    traverse (traverse [] directory) (spelled (steps (names directory) (names path))) =
      traverse [] path := by
  have walked := foldl_settle_steps
    (fun _ known => isName_of_mem_names absoluteDirectory known)
    (fun _ known => isName_of_mem_names absolutePath known)
  rw [traverse_spelled fun _ known => slash_not_mem_of_mem_steps absolutePath known]
  rw [names_eq_reverse_traverse absoluteDirectory, names_eq_reverse_traverse absolutePath,
    List.reverse_reverse, List.reverse_reverse] at walked
  rw [names_eq_reverse_traverse absoluteDirectory, names_eq_reverse_traverse absolutePath, walked]

/-- Spelled steps hold the characters of the goal's names, full stops and slashes. -/
theorem mem_spelled_steps {origin goal : List Text} {c : CodePoint}
    (known : c ∈ spelled (steps origin goal)) :
    c = dot ∨ c = slash ∨ ∃ name ∈ goal, c ∈ name := by
  cases route : steps origin goal with
  | nil =>
      rw [route] at known
      exact Or.inl (List.mem_singleton.1 known)
  | cons first more =>
      rw [route] at known
      rcases Text.mem_join known with isSlash | ⟨step, member, inside⟩
      · exact Or.inr (Or.inl isSlash)
      · rw [← route] at member
        rcases mem_steps member with rfl | name
        · left
          simpa [up] using inside
        · exact Or.inr (Or.inr ⟨step, name, inside⟩)

end

end ModuleAlias.Path
