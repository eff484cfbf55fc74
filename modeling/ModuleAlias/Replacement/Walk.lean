/-
Module: ModuleAlias.Replacement.Walk
Purpose: Visits the nodes of a tree with a stack of the places that are still to come. A visit
  changes a state, may record something, and tells whether to go on into the children. The walk ends
  at the first visit that fails, and keeps what was recorded before and the state it failed in.
Imports: ModuleAlias.Script.Node
Main exports: Replacement.Place, Replacement.Finding, Replacement.Visit, Replacement.Walk,
  Replacement.walk
-/
import ModuleAlias.Script.Node

namespace ModuleAlias.Replacement

open Script

/-- A node of a tree and the nodes around it, from the inside out. -/
structure Place where
  around : List Node
  node : Node

namespace Place

/-- The root of a tree. -/
def root (node : Node) : Place := { around := [], node }

/-- The children of a node, in their place. -/
def children (place : Place) : List Place :=
  place.node.children.map fun child => { around := place.node :: place.around, node := child }

end Place

/-- What a visit finds: what it records, and whether the children of the node are to be visited. -/
structure Finding (α : Type) where
  recorded : Option α
  descends : Bool

/-- What a visit comes to: the state after it, and what it finds or why it fails. -/
structure Visit (σ ε α : Type) where
  state : σ
  finding : Except ε (Finding α)

/-- A walk: what was recorded, in order, the state it ended in, and the failure that ended it, if
one did. -/
structure Walk (σ ε α : Type) where
  recorded : List α
  state : σ
  failure : Option ε

/-- The number of nodes of the trees at a list of places. -/
def stackSize : List Place → Nat
  | [] => 0
  | place :: places => place.node.size + stackSize places

/-- Places stand for as many nodes as their trees have. -/
theorem stackSize_cons (place : Place) (places : List Place) :
    stackSize (place :: places) = place.node.size + stackSize places := rfl

/-- The children of a node stand for one node less than the node. -/
theorem stackSize_children_append (place : Place) (places : List Place) :
    stackSize (place.children ++ places) + 1 = place.node.size + stackSize places := by
  have sizes : ∀ around nodes : List Node,
      stackSize ((nodes.map fun child => { around, node := child }) ++ places)
        = Node.sizeOfAll nodes + stackSize places := by
    intro around nodes
    induction nodes with
    | nil => simp [Node.sizeOfAll]
    | cons node nodes ih =>
      simp only [List.map_cons, List.cons_append, stackSize_cons, Node.sizeOfAll, ih]
      omega
  obtain ⟨around, node⟩ := place
  cases node with
  | mk kind part start stop children =>
    simp only [Place.children, Node.children, Node.size, sizes]
    omega

/-- Visits the places on a stack, the top first. -/
def walkFrom {σ ε α : Type} (visit : σ → Place → Visit σ ε α) (state : σ) :
    List Place → Walk σ ε α
  | [] => { recorded := [], state, failure := none }
  | place :: places =>
    let visited := visit state place
    match visited.finding with
    | .error failure => { recorded := [], state := visited.state, failure := some failure }
    | .ok finding =>
      let rest :=
        if finding.descends then walkFrom visit visited.state (place.children ++ places)
        else walkFrom visit visited.state places
      { rest with recorded := finding.recorded.toList ++ rest.recorded }
termination_by places => stackSize places
decreasing_by
  · have := stackSize_children_append place places
    have := stackSize_cons place places
    omega
  · have := stackSize_cons place places
    have : 0 < place.node.size := by cases place.node; simp [Node.size]
    omega

/-- Visits the nodes of a tree. -/
def walk {σ ε α : Type} (visit : σ → Place → Visit σ ε α) (state : σ) (root : Node) :
    Walk σ ε α :=
  walkFrom visit state [Place.root root]

end ModuleAlias.Replacement
