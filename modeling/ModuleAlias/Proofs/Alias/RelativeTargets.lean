/-
Module: ModuleAlias.Proofs.Alias.RelativeTargets
Purpose: The path that is written for a target. It goes up from the directory of the importing file
  to the last directory on the way to the target and down from there, no other steps are fewer, and
  it is the same however the two directories and the target are spelled.
Imports: ModuleAlias.Proofs.Alias.PathTargets, ModuleAlias.Proofs.Path.Distance
Main exports: Alias.relativeTarget_is_shortest
-/
import ModuleAlias.Proofs.Alias.PathTargets
import ModuleAlias.Proofs.Path.Distance

namespace ModuleAlias.Alias

open Literal (backslash)

section
variable {importer : Importer} {target : Text}
  (absoluteBase : Path.isAbsolute importer.base = true)
  (absoluteWorking : Path.isAbsolute importer.working = true)

include absoluteBase absoluteWorking

/-- Only the names of the importing directory and of the target's place count for the path between
them. -/
theorem relativeTarget_of_names_eq {other : Importer} {spelling : Text}
    (otherBase : Path.isAbsolute other.base = true)
    (otherWorking : Path.isAbsolute other.working = true)
    (sameBase : Path.names other.base = Path.names importer.base)
    (samePlace : Path.names (located other.working spelling) =
      Path.names (located importer.working target)) :
    relativeTarget spelling other = relativeTarget target importer := by
  rw [relativeTarget_eq absoluteBase absoluteWorking, relativeTarget_eq otherBase otherWorking,
    sameBase, samePlace]

/-- The path that is written for a target, if no name on the way to it holds a backslash, is `.` for
the importing directory itself, and otherwise goes up from there as often as names do not belong to
the longest list that both ways begin with, and then down by names. It leads to the target, no steps
that lead there are fewer, and another spelling of the directories and the target gives the same
path. -/
theorem relativeTarget_is_shortest
    (plain : ∀ name ∈ Path.names (located importer.working target), backslash ∉ name) :
    let origin := Path.names importer.base
    let goal := Path.names (located importer.working target)
    (∃ common below, Path.PartAfter common origin goal ∧ goal = common ++ below ∧
      (∀ name ∈ below, Path.IsName name) ∧
      let route := List.replicate (origin.length - common.length) Path.up ++ below
      relativeTarget target importer =
          (if origin = goal then Path.here else Text.join Path.slash route) ∧
        Path.LeadsBy importer.base route goal ∧
        ∀ other, Path.LeadsBy importer.base other goal → route.length ≤ other.length) ∧
    ∀ (other : Importer) (spelling : Text), Path.isAbsolute other.base = true →
      Path.isAbsolute other.working = true → Path.names other.base = origin →
      Path.names (located other.working spelling) = goal →
      relativeTarget spelling other = relativeTarget target importer := by
  intro origin goal
  have absoluteTarget := isAbsolute_located target absoluteWorking
  constructor
  · refine ⟨goal.take (Path.shared origin goal), goal.drop (Path.shared origin goal),
      Path.partAfter_take_shared origin goal, (List.take_append_drop _ goal).symm, ?_, ?_⟩
    · intro name known
      exact Path.isName_of_mem_names absoluteTarget (List.mem_of_mem_drop known)
    · intro route
      have written : Path.steps origin goal = route := Path.steps_eq_replicate_append origin goal
      rw [← written, relativeTarget_of_plain absoluteBase absoluteWorking plain]
      exact ⟨Path.spelled_steps origin goal, Path.leadsBy_steps absoluteBase absoluteTarget,
        fun _ leads => leads.length_steps_le absoluteBase⟩
  · intro other spelling otherBase otherWorking sameBase samePlace
    exact relativeTarget_of_names_eq absoluteBase absoluteWorking otherBase otherWorking sameBase
      samePlace

end

/-- From `src/app/ui`, a library beside `src` is three directories up and two names down, whether it
is named from inside the working directory or from the root. No other steps are fewer. -/
theorem library_is_three_up :
    let importer : Importer :=
      { base := "/repo/src//app/./ui", working := "/repo/tmp/..", process := "/" }
    let other : Importer := { base := "/repo/src/app/ui/", working := "/", process := "/tmp" }
    relativeTarget "lib/../lib/x" importer = Text.ofString "../../../lib/x" ∧
      relativeTarget "/repo//lib/x" other = relativeTarget "lib/../lib/x" importer ∧
      ∃ route, relativeTarget "lib/../lib/x" importer = Text.join Path.slash route ∧
        ∀ steps, Path.LeadsBy importer.base steps (["repo", "lib", "x"].map Text.ofString) →
          route.length ≤ steps.length := by
  intro importer other
  have goal : Path.names (located importer.working "lib/../lib/x") =
      ["repo", "lib", "x"].map Text.ofString := by decide +kernel
  obtain ⟨⟨common, below, _, _, _, written, _, shortest⟩, alike⟩ :=
    @relativeTarget_is_shortest importer "lib/../lib/x" (by decide +kernel) (by decide +kernel)
      (by decide +kernel)
  refine ⟨by decide +kernel, ?_, _, written.trans (if_neg (by decide +kernel)), ?_⟩
  · apply alike
    · decide +kernel
    · decide +kernel
    · decide +kernel
    · decide +kernel
  · rw [← goal]
    exact shortest

end ModuleAlias.Alias
