/-
Module: ModuleAlias.Proofs.Transform.Asking
Purpose: Runs that cannot have a configuration. A run asks for its configuration at the first import
  or call that it comes to; if none can be had, it ends there. A text without any needs none.
Imports: ModuleAlias.Proofs.Configuration.Histories, ModuleAlias.Proofs.Replacement.Walks,
  ModuleAlias.Proofs.Script.Nesting, ModuleAlias.Transform
Main exports: Script.Node.asks, Script.Node.asks_iff, Transform.walkFrom_of_error,
  Transform.runSource_of_load_error
-/
import ModuleAlias.Proofs.Configuration.Histories
import ModuleAlias.Proofs.Replacement.Walks
import ModuleAlias.Proofs.Script.Nesting
import ModuleAlias.Transform

namespace ModuleAlias

open Script Replacement

namespace Script.Node

mutual

/-- Whether there is an import or a call in a tree. -/
def asks : Node → Bool
  | .mk kind part start stop children =>
    isCandidate (.mk kind part start stop children) || anyAsks children

/-- Whether there is an import or a call in one of some trees. -/
def anyAsks : List Node → Bool
  | [] => false
  | node :: nodes => asks node || anyAsks nodes

end

theorem asks_eq (node : Node) : node.asks = (isCandidate node || anyAsks node.children) := by
  cases node
  rw [asks, children]

mutual

/-- What asks in a tree is an import or a call inside it. -/
theorem asks_iff : ∀ node : Node,
    node.asks = true ↔ ∃ inner, Inside inner node ∧ isCandidate inner = true
  | .mk kind part start stop children => by
      rw [asks, Bool.or_eq_true, anyAsks_iff children]
      constructor
      · rintro (here | ⟨child, known, inner, nested, candidate⟩)
        · exact ⟨_, .itself, here⟩
        · exact ⟨inner, .deeper nested known, candidate⟩
      · rintro ⟨inner, inside, candidate⟩
        cases inside with
        | itself => exact Or.inl candidate
        | deeper nested known => exact Or.inr ⟨_, known, inner, nested, candidate⟩

theorem anyAsks_iff : ∀ nodes : List Node,
    anyAsks nodes = true ↔ ∃ node ∈ nodes, ∃ inner, Inside inner node ∧ isCandidate inner = true
  | [] => by simp [anyAsks]
  | node :: nodes => by
      rw [anyAsks, Bool.or_eq_true, asks_iff node, anyAsks_iff nodes]
      simp

end

theorem anyAsks_append (first second : List Node) :
    anyAsks (first ++ second) = (anyAsks first || anyAsks second) := by
  induction first with
  | nil => rfl
  | cons node first ih => rw [List.cons_append, anyAsks, anyAsks, ih, Bool.or_assoc]

end Script.Node

namespace Transform

section
variable {σ : Type} {task : Task} {configurations : ConfigurationSource σ} {state after : σ}
  {fault : Fault}

/-- A visit that cannot have a configuration fails at an import or a call, and goes on from
everything else. -/
theorem visit_of_error (failed : configurations state = (.error fault, after)) (place : Place) :
    visit task configurations state place =
      if isCandidate place.node then { state := after, finding := .error fault }
      else { state, finding := .ok { recorded := none, descends := true } } := by
  unfold visit
  split
  · rw [failed]
    rfl
  · rfl

/-- A walk that cannot have a configuration ends at the first import or call, where it asks for
one. -/
theorem walkFrom_of_error (failed : configurations state = (.error fault, after))
    (places : List Place) :
    walkFrom (visit task configurations) state places =
      if Node.anyAsks (places.map Place.node) then
        { recorded := [], state := after, failure := some fault }
      else { recorded := [], state, failure := none } := by
  induction state, places using walkFrom_induction (visit task configurations) with
  | done state =>
      rw [walkFrom_nil]
      rfl
  | failed state place places failure fails =>
      rw [walkFrom_cons_of_error fails]
      rw [visit_of_error failed] at fails ⊢
      split at fails
      · rename_i candidate
        cases fails
        simp [Node.anyAsks, Node.asks_eq, candidate]
      · cases fails
  | found state place places finding finds rest =>
      rw [walkFrom_cons_of_ok finds]
      rw [visit_of_error failed] at finds rest ⊢
      split at finds
      · cases finds
      · rename_i other
        cases finds
        rw [if_neg other] at rest ⊢
        rw [rest failed, nextPlaces_of_descends rfl]
        simp only [Node.anyAsks, List.map_append, Place.map_node_children, Node.anyAsks_append,
          List.map_cons, Node.asks_eq, other, Bool.false_or]
        split
        · rfl
        · rfl

/-- A run that cannot have a configuration fails with the reason if there is an import or a call in
the tree, and otherwise returns the text as it is. -/
theorem runTree_of_error {text : String} (failed : configurations state = (.error fault, after))
    (filename : Text) (tree : Tree text) :
    runTree task configurations filename text tree state =
      { hasErrors := tree.hasErrors
        visited := []
        state := if tree.root.asks then after else state
        result :=
          if tree.root.asks then .error fault
          else .ok { filename, code := text, replacements := [] } } := by
  have walked := @walkFrom_of_error σ task configurations state after fault failed
    [Place.root tree.root]
  have root : Node.anyAsks ([Place.root tree.root].map Place.node) = tree.root.asks := by
    simp [Node.anyAsks, Place.root]
  rw [root] at walked
  simp only [runTree, walk, walked]
  cases tree.root.asks with
  | true => rfl
  | false => rfl

end

/-- The same for a run over the text of a file whose provider cannot load the configuration. -/
theorem runSource_of_load_error {transform : Transform} {around : Surroundings} {fault : Fault}
    {provider : Provider}
    (failed : (provider.answer (Provider.load around transform.options.configuration)).1 =
      .error fault) (text : String) (filename : Text) :
    let run := transform.runSource around text filename provider
    run.state = provider ∧
      run.result =
        if (around.parse (Language.ofFilename filename) text).root.asks then .error fault
        else .ok { filename, code := text, replacements := [] } := by
  intro run
  have unchanged : configurationsOf around transform.options provider = (.error fault, provider) :=
    Prod.ext failed (Provider.answer_load_error (Prod.ext failed rfl))
  have same : run = _ := runTree_of_error unchanged filename _
  rw [same]
  exact ⟨ite_self _, rfl⟩

end Transform

end ModuleAlias
