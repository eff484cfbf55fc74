/-
Module: ModuleAlias.Proofs.Script.PatternReaders
Purpose: The trees of binding patterns. Whatever the grammar reads as a binding pattern, to any
  depth, stands for one.
Imports: ModuleAlias.Proofs.Script.BindingPatterns, ModuleAlias.Proofs.Script.Readers,
  ModuleAlias.Script.Tree
Main exports: Script.exists_isPattern_of_read
-/
import ModuleAlias.Proofs.Script.BindingPatterns
import ModuleAlias.Proofs.Script.Readers
import ModuleAlias.Script.Tree

namespace ModuleAlias.Script

open Reader

/-!
### Nodes in other parts
-/

theorem Node.withPart_part (node : Node) (part : Part) : (node.withPart part).part = part := by
  cases node
  rfl

section
variable {source : Source} {node : Node}

/-- What a node stands for does not depend on the part that it plays. -/
theorem IsPattern.withPart {pattern : BindingPattern} (stands : IsPattern source node pattern)
    (part : Part) : IsPattern source (node.withPart part) pattern := by
  cases stands with
  | name => exact .name
  | object inner => exact .object inner
  | array inner => exact .array inner

theorem IsTarget.withPart {target : BindingPattern} {given : Option Node}
    (stands : IsTarget source node target given) (part : Part) :
    IsTarget source (node.withPart part) target given := by
  cases stands with
  | plain pattern => exact .plain (pattern.withPart part)
  | withDefault inner left pattern => exact .withDefault inner left pattern

end

/-!
### Keys
-/

theorem yields_stringLiteral : stringLiteral.Yields (IsMember .string) := by
  refine yields_after fun lexeme => ?_
  split
  · split
    · exact yields_failure
    · exact yields_after fun _ => yields_pure ⟨rfl, rfl⟩
  · exact yields_failure

/-- A node of one of the kinds of keys stands for a key. -/
theorem exists_isKey {source : Source} {node : Node}
    (kind : node.kind = .propertyIdentifier ∨ node.kind = .string ∨ node.kind = .number ∨
      node.kind = .privateIdentifier) : ∃ key, IsKey source node key := by
  obtain ⟨kind, part, start, stop, children⟩ := node
  rcases kind with rfl | rfl | rfl | rfl
  · exact ⟨_, .word⟩
  · exact ⟨_, .string⟩
  · exact ⟨_, .number⟩
  · exact ⟨_, .privateName⟩

theorem yields_memberName (source : Source) (g : Grammar) :
    (memberName g).Yields fun node => (∃ key, IsKey source node key) ∧ node.part = .member := by
  refine yields_after fun lexeme => ?_
  cases lexeme.token with
  | word spelling =>
      intro cursor node after read
      obtain ⟨kind, part⟩ := yields_anyWord .propertyIdentifier read
      exact ⟨exists_isKey (Or.inl kind), part⟩
  | quote quote =>
      intro cursor node after read
      obtain ⟨kind, part⟩ := yields_stringLiteral read
      exact ⟨exists_isKey (Or.inr (Or.inl kind)), part⟩
  | number =>
      refine yields_after fun _ => ?_
      intro cursor node after read
      obtain ⟨stop, rfl⟩ := yields_node _ _ _ read
      exact ⟨⟨_, .number⟩, rfl⟩
  | privateName =>
      refine yields_after fun _ => ?_
      intro cursor node after read
      obtain ⟨stop, rfl⟩ := yields_node _ _ _ read
      exact ⟨⟨_, .privateName⟩, rfl⟩
  | mark spelling =>
      refine yields_after fun _ => yields_after fun expression => yields_after fun _ => ?_
      intro cursor node after read
      obtain ⟨stop, rfl⟩ := yields_node _ _ _ read
      exact ⟨⟨_, .computed (.refl _)⟩, rfl⟩
  | _ => exact yields_failure

/-!
### Patterns

One rule for each form of a pattern, on the assumption that the patterns inside are read well.
-/

section
variable {source : Source} {g : Grammar}
  (inner : g.pattern.Yields fun node => ∃ pattern, IsPattern source node pattern)
include inner

theorem yields_patternElement :
    (patternElement g).Yields fun node => ∃ target given, IsTarget source node target given := by
  refine yields_after fun start => inner.bind fun left => ?_
  rintro ⟨target, pattern⟩
  refine yields_after fun isGiven => Yields.ite (yields_after fun given => ?_) ?_
  · intro cursor node after read
    obtain ⟨stop, rfl⟩ := yields_node _ _ _ read
    exact ⟨target, _, .withDefault (.refl _) (left.withPart_part .left) (pattern.withPart .left)⟩
  · exact yields_pure ⟨target, none, .plain pattern⟩

/-- The rest of a list or of an object. -/
theorem yields_restPattern :
    (restPattern g).Yields fun node => ∃ part start stop child target,
      node = .mk .restPattern part start stop [child] ∧ IsPattern source child target := by
  refine yields_after fun start => yields_after fun _ => inner.bind fun child => ?_
  rintro ⟨target, pattern⟩
  intro cursor node after read
  obtain ⟨stop, rfl⟩ := yields_node _ _ _ read
  exact ⟨_, _, _, child, target, rfl, pattern⟩

theorem yields_patternProperty :
    (patternProperty g).Yields fun node => ∃ property, IsProperty source node property := by
  refine yields_after fun start => ?_
  have keyed : (do
      let key ← memberName g
      mark ":"
      let target ← patternElement g
      node .pairPattern start [key, target.withPart .value]).Yields
        fun node => ∃ property, IsProperty source node property := by
    refine (yields_memberName source g).bind fun keyNode => ?_
    rintro ⟨⟨key, named⟩, member⟩
    refine yields_after fun _ => (yields_patternElement inner).bind fun child => ?_
    rintro ⟨target, given, pattern⟩
    intro cursor node after read
    obtain ⟨stop, rfl⟩ := yields_node _ _ _ read
    have apart : keyNode.part ≠ .value := by
      rw [member]
      exact nofun
    exact ⟨_, .keyed (.refl _) named apart (child.withPart_part .value) (pattern.withPart .value)⟩
  have shorthand : (do
      let target ← name .shorthandIdentifierPattern
      if ← markIf "=" then
        let given ← g.assignment {}
        node .objectAssignmentPattern start [target.withPart .left, given.withPart .value]
      else return target).Yields fun node => ∃ property, IsProperty source node property := by
    refine (yields_name .shorthandIdentifierPattern).bind fun target => ?_
    obtain ⟨kind, part, first, last, children⟩ := target
    rintro ⟨rfl, rfl⟩
    refine yields_after fun isGiven => Yields.ite (yields_after fun given => ?_) ?_
    · intro cursor node after read
      obtain ⟨stop, rfl⟩ := yields_node _ _ _ read
      exact ⟨_, .shorthandWithDefault (.refl _) rfl .shorthand⟩
    · exact yields_pure ⟨_, .shorthand⟩
  refine yields_after fun isRest => Yields.ite ?_ (yields_after fun second => ?_)
  · intro cursor node after read
    obtain ⟨part, first, last, child, target, rfl, pattern⟩ := yields_restPattern inner read
    exact ⟨_, .rest (.refl _) pattern⟩
  · exact Yields.ite keyed (shorthand.orElse keyed)

theorem yields_listElement :
    (listElement g).Yields
      fun nodes => ∀ node ∈ nodes, ∃ element, IsElement source node element := by
  refine yields_after fun isHole => Yields.ite (yields_pure nofun) ?_
  refine yields_after fun isRest => Yields.ite ?_ ?_
  · refine (yields_restPattern inner).bind fun node => ?_
    rintro ⟨part, first, last, child, target, rfl, pattern⟩
    exact yields_pure (List.forall_mem_singleton.2 ⟨_, .rest (.refl _) pattern⟩)
  · refine (yields_patternElement inner).bind fun node => ?_
    rintro ⟨target, given, pattern⟩
    exact yields_pure (List.forall_mem_singleton.2 ⟨_, .item pattern⟩)

theorem yields_patternRule :
    (patternRule g).Yields fun node => ∃ pattern, IsPattern source node pattern := by
  refine yields_after fun start => yields_after fun isObject => Yields.ite ?_ ?_
  · refine yields_after fun _ =>
      ((yields_patternProperty inner).listUntil "\x7d").bind fun nodes each => ?_
    intro cursor node after read
    obtain ⟨stop, rfl⟩ := yields_node _ _ _ read
    obtain ⟨properties, stand⟩ := exists_of_each AreProperties.nil AreProperties.property each
    exact ⟨_, .object stand⟩
  refine yields_after fun isArray => Yields.ite ?_ ?_
  · have element : (do
        if ← markIf "," then
          return []
        listElement g).Yields
          fun nodes => ∀ node ∈ nodes, ∃ element, IsElement source node element :=
      yields_after fun _ => Yields.ite (yields_pure nofun) (yields_listElement inner)
    refine yields_after fun _ => element.many.bind fun lists each => yields_after fun _ => ?_
    intro cursor node after read
    obtain ⟨stop, rfl⟩ := yields_node _ _ _ read
    obtain ⟨elements, stand⟩ :=
      exists_of_each AreElements.nil AreElements.element (List.forall_mem_flatten.2 each)
    exact ⟨_, .array stand⟩
  · intro cursor node after read
    obtain ⟨kind, part, first, last, children⟩ := node
    obtain ⟨rfl, -⟩ := yields_name .identifier read
    exact ⟨_, .name⟩

end

/-- Every tree that the grammar of a language reads as a pattern stands for one. -/
theorem exists_isPattern_of_read (source : Source) (language : Language) (depth : Nat) :
    (Grammar.ofDepth language depth).pattern.Yields
      fun node => ∃ pattern, IsPattern source node pattern := by
  induction depth with
  | zero => exact yields_failure
  | succ depth ih => exact yields_patternRule ih

end ModuleAlias.Script
