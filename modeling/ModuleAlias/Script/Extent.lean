/-
Module: ModuleAlias.Script.Extent
Purpose: How the nodes of a syntax tree lie over the text they were read from. A node lies inside
  its parent, siblings follow one another without overlapping, a node begins and ends between
  characters, and a string literal has at least its quotes. That much is asked of a parser, which
  may be any function that gives every source such a tree.
Imports: ModuleAlias.Script.Language, ModuleAlias.Script.Node
Main exports: Script.BetweenCharacters, Script.Node.LiesOver, Script.Node.LieOver, Script.Tree,
  Script.Parser
-/
import ModuleAlias.Script.Language
import ModuleAlias.Script.Node

namespace ModuleAlias.Script

/-- A byte of a text that no character is cut apart at: one where a character begins, or the end. -/
def BetweenCharacters (text : String) (offset : Nat) : Prop :=
  (String.Pos.Raw.mk offset).IsValid text

instance (text : String) (offset : Nat) : Decidable (BetweenCharacters text offset) :=
  inferInstanceAs (Decidable ((String.Pos.Raw.mk offset).IsValid text))

namespace Node

mutual

/-- A tree lies over a text, between two bytes of it. -/
def LiesOver (text : String) (low high : Nat) : Node → Prop
  | .mk kind _ start stop children =>
    (low ≤ start ∧ start ≤ stop ∧ stop ≤ high) ∧
      (BetweenCharacters text start ∧ BetweenCharacters text stop) ∧
      (kind = .string → start < stop) ∧
      LieOver text start stop children

/-- Trees lie over a text one after another, between two bytes of it. -/
def LieOver (text : String) (low high : Nat) : List Node → Prop
  | [] => True
  | node :: nodes => LiesOver text low high node ∧ LieOver text node.stop high nodes

end

mutual

/-- Whether a tree lies over a text can be checked. -/
def decidableLiesOver (text : String) (low high : Nat) :
    (node : Node) → Decidable (LiesOver text low high node)
  | .mk kind _ start stop children =>
    have := decidableLieOver text start stop children
    inferInstanceAs (Decidable ((low ≤ start ∧ start ≤ stop ∧ stop ≤ high) ∧
      (BetweenCharacters text start ∧ BetweenCharacters text stop) ∧
      (kind = .string → start < stop) ∧
      LieOver text start stop children))

/-- Whether trees lie over a text one after another can be checked. -/
def decidableLieOver (text : String) (low high : Nat) :
    (nodes : List Node) → Decidable (LieOver text low high nodes)
  | [] => inferInstanceAs (Decidable True)
  | node :: nodes =>
    have := decidableLiesOver text low high node
    have := decidableLieOver text node.stop high nodes
    inferInstanceAs (Decidable (LiesOver text low high node ∧ LieOver text node.stop high nodes))

end

instance (text : String) (low high : Nat) (node : Node) :
    Decidable (LiesOver text low high node) :=
  decidableLiesOver text low high node

end Node

/-- A syntax tree of a source, and whether a part of the source could not be read. -/
structure Tree (source : String) where
  root : Node
  hasErrors : Bool
  lies : root.LiesOver source 0 source.utf8ByteSize

/-- A parser gives every source a tree, also one of which not everything could be read. -/
abbrev Parser := Language → (source : String) → Tree source

end ModuleAlias.Script
