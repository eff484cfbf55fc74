/-
Module: ModuleAlias.Proofs.Replacement.Ranges
Purpose: The ranges that a walk over a tree replaces. A replacement takes the place of the visited
  node or of a string literal inside it. The walk does not go on below a replaced node, so the nodes
  on its stack begin where the last replacement ends, and the replacements follow one another.
Imports: ModuleAlias.Transform, ModuleAlias.Proofs.Script.Nesting,
  ModuleAlias.Proofs.Replacement.NamedModules, ModuleAlias.Proofs.Replacement.Stitching,
  ModuleAlias.Proofs.Replacement.Walks
Main exports: Replacement.TakesPlaceIn, Replacement.inside_of_moduleLiteral?,
  Replacement.takesPlaceIn_of_decide, Transform.editsOf, Transform.finding_of_visit,
  Transform.fitText_walkFrom, Transform.fitText_walk
-/
import ModuleAlias.Transform
import ModuleAlias.Proofs.Script.Nesting
import ModuleAlias.Proofs.Replacement.NamedModules
import ModuleAlias.Proofs.Replacement.Stitching
import ModuleAlias.Proofs.Replacement.Walks

namespace ModuleAlias.Transform

@[simp] theorem editOf_start (replacement : Replacement) :
    (editOf replacement).start = replacement.start := rfl

@[simp] theorem editOf_stop (replacement : Replacement) :
    (editOf replacement).stop = replacement.stop := rfl

end ModuleAlias.Transform

namespace ModuleAlias.Replacement

open Script

/-!
### The literals of imports and calls
-/

theorem inside_of_importLiteral {statement literal : Node}
    (found : importLiteral statement = some literal) : literal.Inside statement := by
  unfold importLiteral at found
  split at found
  · rename_i source known
    rw [Option.some_inj] at found
    exact found ▸ Node.inside_of_child? known
  · split at found
    · rename_i clause known
      have clauseInside : clause.Inside statement := Node.inside_of_childOfKind? known
      split at found
      · rename_i source known'
        rw [Option.some_inj] at found
        have literalInside : literal.Inside clause := found ▸ Node.inside_of_child? known'
        exact literalInside.trans clauseInside
      · have literalInside : literal.Inside clause := Node.inside_of_childOfKind? found
        exact literalInside.trans clauseInside
    · cases found

theorem inside_of_mem_callArguments {call argument : Node}
    (known : argument ∈ callArguments call) : argument.Inside call := by
  unfold callArguments at known
  split at known
  · rename_i list found
    have argumentInside : argument.Inside list := .of_mem (List.mem_filter.1 known).1
    exact argumentInside.trans (Node.inside_of_child? found)
  · cases known

/-!
### What a decision replaces
-/

/-- A replacement takes the place of a node that holds a string literal, or of that literal. -/
def TakesPlaceIn (replacement : Replacement) (node : Node) : Prop :=
  ∃ literal : Node, literal.kind = .string ∧ literal.Inside node ∧
    (replacement.start = node.start ∧ replacement.stop = node.stop ∨
      replacement.start = literal.start ∧ replacement.stop = literal.stop)

section
variable {task : Task} {configuration : Configuration} {around : List Node} {node literal : Node}
  {outcome : Outcome} {replacement : Replacement}

/-- A module is named by a string literal inside the node. -/
theorem inside_of_moduleLiteral? {source : Source}
    (named : moduleLiteral? source node = some literal) :
    literal.kind = .string ∧ literal.Inside node := by
  unfold moduleLiteral? at named
  split at named
  · obtain ⟨found, isString⟩ := Option.filter_eq_some_iff.1 named
    exact ⟨by simpa using isString, inside_of_importLiteral found⟩
  · split at named
    · obtain ⟨found, isString⟩ := Option.filter_eq_some_iff.1 named
      have known : literal ∈ callArguments node := List.mem_of_mem_head? found
      exact ⟨by simpa using isString, inside_of_mem_callArguments known⟩
    · cases named

/-- What is decided about a node replaces it, or a string literal inside it. -/
theorem takesPlaceIn_of_decide (decided : decide task configuration around node = .ok outcome)
    (replaced : outcome.replacement? = some replacement) : replacement.TakesPlaceIn node := by
  obtain ⟨_, literal, specifier, named, _, decides⟩ :=
    exists_decides_of_replacement? decided replaced
  obtain ⟨string, inside⟩ := inside_of_moduleLiteral? named
  refine ⟨literal, string, inside, ?_⟩
  cases decides with
  | unmatched => cases replaced
  | external =>
      cases replaced
      exact Or.inl ⟨rfl, rfl⟩
  | changed =>
      cases replaced
      exact Or.inr ⟨rfl, rfl⟩
  | kept => cases replaced

end

section
variable {text : String} {low high : Nat} {node : Node} {replacement : Replacement}

/-- In a tree over a text, a replacement lies inside the visited node. -/
theorem TakesPlaceIn.bounds (takes : replacement.TakesPlaceIn node)
    (lies : node.LiesOver text low high) :
    node.start ≤ replacement.start ∧ replacement.stop ≤ node.stop := by
  obtain ⟨literal, _, inside, whole | part⟩ := takes
  · exact ⟨Nat.le_of_eq whole.1.symm, Nat.le_of_eq whole.2⟩
  · have within := (lies.of_inside inside).bounds
    exact ⟨part.1 ▸ within.1, part.2 ▸ within.2.2⟩

/-- In a tree over a text, a replacement takes out whole characters, at least one. -/
theorem TakesPlaceIn.takesCharacters (takes : replacement.TakesPlaceIn node)
    (lies : node.LiesOver text low high) :
    (Transform.editOf replacement).TakesCharacters text := by
  obtain ⟨literal, string, inside, range⟩ := takes
  have lies' := lies.of_inside inside
  have within := lies'.bounds
  have nonempty := lies'.nonempty_of_string string
  rcases range with ⟨start, stop⟩ | ⟨start, stop⟩
  · have wider : node.start < node.stop := by omega
    constructor
    · simpa [start, stop] using wider
    · simpa [start] using lies.between_start
    · simpa [stop] using lies.between_stop
  · constructor
    · simpa [start, stop] using nonempty
    · simpa [start] using lies'.between_start
    · simpa [stop] using lies'.between_stop

end

end ModuleAlias.Replacement

namespace ModuleAlias.Transform

open Script Replacement

/-- The edits that what was found in a walk asks for. -/
def editsOf (visited : List Visited) : List Edit := (replacementsOf visited).map editOf

theorem editsOf_append (first second : List Visited) :
    editsOf (first ++ second) = editsOf first ++ editsOf second := by
  simp [editsOf, replacementsOf]

/-!
### The walk
-/

section
variable {σ : Type} {task : Task} {configurations : ConfigurationSource σ}

/-- A visit goes on into the children of a node unless it replaces something in it. -/
theorem finding_of_visit {state : σ} {place : Place} {finding : Finding Visited}
    (found : (visit task configurations state place).finding = .ok finding) :
    (finding.descends = true ∧ editsOf finding.recorded.toList = []) ∨
      ∃ replacement : Replacement, finding.descends = false ∧
        editsOf finding.recorded.toList = [editOf replacement] ∧
        replacement.TakesPlaceIn place.node := by
  unfold visit at found
  split at found
  · obtain ⟨configuration, _, found⟩ := exists_of_bind_eq_ok found
    obtain ⟨outcome, decided, found⟩ := exists_of_bind_eq_ok found
    cases found
    cases replaced : outcome.replacement? with
    | none => exact Or.inl ⟨rfl, by simp [editsOf, replacementsOf, replaced]⟩
    | some replacement =>
        refine Or.inr ⟨replacement, ?_, ?_, takesPlaceIn_of_decide decided replaced⟩
        · rfl
        · simp [editsOf, replacementsOf, replaced]
  · cases found
    exact Or.inl ⟨rfl, rfl⟩

/-- The edits of a walk follow one another inside the nodes that its stack begins with. -/
theorem fitText_walkFrom {text : String} {low high : Nat} (state : σ) (places : List Place)
    (upward : low ≤ high) (lie : Node.LieOver text low high (places.map Place.node)) :
    Edit.FitText text low high
      (editsOf (walkFrom (visit task configurations) state places).recorded) := by
  induction state, places using walkFrom_induction (visit task configurations)
    generalizing low with
  | done state =>
      rw [walkFrom_nil]
      exact Edit.FitText.nil upward
  | failed state place places failure fails =>
      rw [walkFrom_cons_of_error fails]
      exact Edit.FitText.nil upward
  | found state place places finding finds rest =>
      obtain ⟨here, after⟩ := lie
      have bounds := here.bounds
      rw [walkFrom_cons_of_ok finds, editsOf_append]
      rcases finding_of_visit finds with ⟨descends, none⟩ | ⟨replacement, stays, one, takes⟩
      · rw [nextPlaces_of_descends descends, List.map_append, Place.map_node_children] at rest
        have inside : Node.LieOver text place.node.start high
            (place.node.children ++ places.map Place.node) :=
          Node.lieOver_append here.children after bounds.2.1 bounds.2.2
        have fit := (rest (Nat.le_trans bounds.2.1 bounds.2.2) inside).of_le bounds.1
        rwa [none, List.nil_append, nextPlaces_of_descends descends]
      · rw [nextPlaces_of_stays stays] at rest ⊢
        have range := takes.bounds here
        have fit := (rest bounds.2.2 after).of_le range.2
        rw [one, List.singleton_append]
        apply Edit.FitText.cons
        · exact Nat.le_trans bounds.1 range.1
        · exact takes.takesCharacters here
        · exact fit

/-- The edits of a walk over a tree of a text follow one another and take out whole characters. -/
theorem fitText_walk {text : String} (tree : Tree text) (state : σ) :
    Edit.FitText text 0 text.utf8ByteSize
      (editsOf (walk (visit task configurations) state tree.root).recorded) :=
  fitText_walkFrom state [Place.root tree.root] (Nat.zero_le _) ⟨tree.lies, trivial⟩

end

end ModuleAlias.Transform
