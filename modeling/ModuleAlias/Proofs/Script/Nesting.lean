/-
Module: ModuleAlias.Proofs.Script.Nesting
Purpose: The nodes inside a node of a syntax tree. In a tree that lies over its text they lie between
  the first and the last byte of the outer node.
Imports: ModuleAlias.Script.Extent
Main exports: Script.Node.Inside, Script.Node.LiesOver.of_inside, Script.Node.LieOver.apart,
  Script.Node.lieOver_append
-/
import ModuleAlias.Script.Extent

namespace ModuleAlias.Script.Node

/-- A node is inside another one: it is that node, or is inside a child of it. -/
inductive Inside (inner : Node) : Node → Prop where
  | itself : Inside inner inner
  | deeper {child outer : Node} (nested : Inside inner child) (known : child ∈ outer.children) :
      Inside inner outer

theorem Inside.of_mem {child node : Node} (known : child ∈ node.children) :
    Inside child node :=
  .deeper .itself known

theorem Inside.trans {inner middle outer : Node} (first : Inside inner middle)
    (second : Inside middle outer) : Inside inner outer := by
  induction second with
  | itself => exact first
  | deeper _ known ih => exact .deeper ih known

theorem inside_of_child? {node child : Node} {part : Part} (found : node.child? part = some child) :
    Inside child node :=
  .of_mem (List.mem_of_find?_eq_some found)

theorem inside_of_childOfKind? {node child : Node} {kind : Kind}
    (found : node.childOfKind? kind = some child) : Inside child node :=
  .of_mem (List.mem_of_find?_eq_some found)

theorem size_le_sizeOfAll {nodes : List Node} {node : Node} (known : node ∈ nodes) :
    node.size ≤ sizeOfAll nodes := by
  induction nodes with
  | nil => cases known
  | cons first nodes ih =>
      rw [sizeOfAll]
      rcases List.mem_cons.1 known with rfl | later
      · exact Nat.le_add_right _ _
      · exact Nat.le_add_left_of_le (ih later)

theorem size_lt_of_mem {child node : Node} (known : child ∈ node.children) :
    child.size < node.size := by
  cases node with
  | mk kind part start stop children =>
      rw [size]
      exact Nat.lt_succ_of_le (size_le_sizeOfAll known)

/-!
### Nodes over a text
-/

section
variable {text : String} {low high : Nat}

/-- What it says of a node itself that its tree lies over a text. -/
theorem LiesOver.bounds {node : Node} (lies : LiesOver text low high node) :
    low ≤ node.start ∧ node.start ≤ node.stop ∧ node.stop ≤ high := by
  cases node
  exact lies.1

theorem LiesOver.between_start {node : Node} (lies : LiesOver text low high node) :
    BetweenCharacters text node.start := by
  cases node
  exact lies.2.1.1

theorem LiesOver.between_stop {node : Node} (lies : LiesOver text low high node) :
    BetweenCharacters text node.stop := by
  cases node
  exact lies.2.1.2

theorem LiesOver.nonempty_of_string {node : Node} (lies : LiesOver text low high node)
    (literal : node.kind = .string) : node.start < node.stop := by
  cases node
  exact lies.2.2.1 literal

theorem LiesOver.children {node : Node} (lies : LiesOver text low high node) :
    LieOver text node.start node.stop node.children := by
  cases node
  exact lies.2.2.2

theorem LiesOver.widen {node : Node} {low' high' : Nat} (lies : LiesOver text low high node)
    (lower : low' ≤ low) (higher : high ≤ high') : LiesOver text low' high' node := by
  cases node with
  | mk kind part start stop children =>
      obtain ⟨⟨above, upward, below⟩, rest⟩ := lies
      refine ⟨⟨?_, upward, ?_⟩, rest⟩
      · exact Nat.le_trans lower above
      · exact Nat.le_trans below higher

theorem LieOver.widen {nodes : List Node} {low' high' : Nat} (lie : LieOver text low high nodes)
    (lower : low' ≤ low) (higher : high ≤ high') : LieOver text low' high' nodes := by
  induction nodes generalizing low low' with
  | nil => trivial
  | cons node nodes ih =>
      obtain ⟨first, rest⟩ := lie
      exact ⟨first.widen lower higher, ih rest (Nat.le_refl _)⟩

/-- Trees that end at a byte may be followed by trees that begin there. -/
theorem lieOver_append {nodes more : List Node} {middle : Nat}
    (first : LieOver text low middle nodes) (second : LieOver text middle high more)
    (lower : low ≤ middle) (higher : middle ≤ high) :
    LieOver text low high (nodes ++ more) := by
  induction nodes generalizing low with
  | nil => exact second.widen lower (Nat.le_refl _)
  | cons node nodes ih =>
      obtain ⟨here, rest⟩ := first
      exact ⟨here.widen (Nat.le_refl _) higher, ih rest here.bounds.2.2⟩

theorem LieOver.of_mem {nodes : List Node} {node : Node} (lie : LieOver text low high nodes)
    (known : node ∈ nodes) : LiesOver text low high node := by
  induction nodes generalizing low with
  | nil => cases known
  | cons first nodes ih =>
      obtain ⟨here, rest⟩ := lie
      rcases List.mem_cons.1 known with same | later
      · exact same ▸ here
      · have ahead := here.bounds
        exact (ih rest later).widen (Nat.le_trans ahead.1 ahead.2.1) (Nat.le_refl _)

/-- Of two trees that lie over a text one after another, one ends before the other begins. -/
theorem LieOver.apart {nodes : List Node} {first second : Node} (lie : LieOver text low high nodes)
    (known : first ∈ nodes) (known' : second ∈ nodes) (different : first ≠ second) :
    first.stop ≤ second.start ∨ second.stop ≤ first.start := by
  induction nodes generalizing low with
  | nil => cases known
  | cons node nodes ih =>
      obtain ⟨_, rest⟩ := lie
      rcases List.mem_cons.1 known with rfl | later
      · rcases List.mem_cons.1 known' with same | later'
        · exact absurd same.symm different
        · exact Or.inl (rest.of_mem later').bounds.1
      · rcases List.mem_cons.1 known' with rfl | later'
        · exact Or.inr (rest.of_mem later).bounds.1
        · exact ih rest later later'

/-- What is inside a node lies between the first and the last byte of it. -/
theorem LiesOver.of_inside {inner outer : Node} (lies : LiesOver text low high outer)
    (inside : Inside inner outer) : LiesOver text outer.start outer.stop inner := by
  induction inside generalizing low high with
  | itself =>
      cases inner with
      | mk kind part start stop children =>
          obtain ⟨⟨_, upward, _⟩, rest⟩ := lies
          exact ⟨⟨Nat.le_refl _, upward, Nat.le_refl _⟩, rest⟩
  | deeper _ known ih =>
      have child := lies.children.of_mem known
      exact (ih child).widen child.bounds.1 child.bounds.2.2

end

end ModuleAlias.Script.Node
