/-
Module: ModuleAlias.Proofs.Replacement.Declarators
Purpose: The declarator whose names are reported for a call. The search goes from a place outward to
  the nearest declarator and ends at most of the nodes that close a scope. It does not ask by which
  child it came to the declarator, and it passes through generators; where neither makes a
  difference, the place is in the value of the declarator that is found.
Imports: ModuleAlias.Proofs.Replacement.Reach, ModuleAlias.Replacement.Names,
  ModuleAlias.Script.Tree
Main exports: Replacement.closesScope, Replacement.IsNearestDeclarator, Replacement.Initializes,
  Replacement.enclosingDeclarator_eq_some_iff, Replacement.found_declarator_initializes_iff
-/
import ModuleAlias.Proofs.Replacement.Reach
import ModuleAlias.Replacement.Names
import ModuleAlias.Script.Tree

namespace ModuleAlias.Replacement

open Script

/-!
### Scopes
-/

/-- Functions of every kind, with their parameters and their bodies. -/
def isFunction : Kind → Bool
  | .functionDeclaration | .functionExpression | .generatorDeclaration | .generatorExpression
  | .functionSignature | .arrowFunction | .methodDefinition => true
  | _ => false

/-- What stands around a call closes a scope, so that the value of the call is not that of anything
further out: a function, the body of a class, or a block. -/
def closesScope (kind : Kind) : Bool :=
  isFunction kind || kind == .classBody || kind == .statementBlock

/-- The functions that the search for a declarator passes through. -/
def isPassed : Kind → Bool
  | .generatorDeclaration | .generatorExpression | .functionSignature => true
  | _ => false

/-- Of what closes a scope, the search ends at all but generators and signatures; besides, it ends
at a whole program. -/
theorem isBoundary_eq (kind : Kind) :
    isBoundary kind = (kind == .program || (closesScope kind && !isPassed kind)) := by
  cases kind <;> rfl

theorem isPassed_eq_false_of_not_closesScope {kind : Kind} (unclosed : closesScope kind = false) :
    isPassed kind = false := by
  unfold isPassed
  split
  · cases unclosed
  · cases unclosed
  · cases unclosed
  · rfl

/-!
### The nearest declarator
-/

/-- The nearest declarator around a place, with the nodes between the two from the inside out. -/
structure IsNearestDeclarator (place : Place) (between : List Node) (declarator : Node) : Prop where
  around : between ++ [declarator] <+: place.around
  declares : declarator.kind = .variableDeclarator
  nearest : ∀ node ∈ between, node.kind ≠ .variableDeclarator

/-- A place lies in the value of a declarator: of the nodes between them, the place included, the
outermost is that value. -/
def LiesInValue (place : Place) (between : List Node) (declarator : Node) : Prop :=
  (place.node :: between).getLast? = declarator.child? .value

/-- A declarator is initialized with the value of a place: the place lies in its value, and nothing
between them closes a scope. -/
structure Initializes (place : Place) (between : List Node) (declarator : Node) : Prop where
  inValue : LiesInValue place between declarator
  unclosed : ∀ node ∈ between, closesScope node.kind = false

/-- A beginning of a list that ends in an item is that item alone, or goes on behind the first item
of the list. -/
theorem exists_concat_prefix_cons_iff {α : Type} {first item : α} {items : List α}
    {holds : List α → Prop} :
    (∃ before, before ++ [item] <+: first :: items ∧ holds before) ↔
      (item = first ∧ holds []) ∨
        ∃ before, before ++ [item] <+: items ∧ holds (first :: before) := by
  constructor
  · rintro ⟨before, begins, held⟩
    cases before with
    | nil => exact Or.inl ⟨(List.cons_prefix_cons.1 begins).1, held⟩
    | cons head before =>
        obtain ⟨rfl, rest⟩ := List.cons_prefix_cons.1 begins
        exact Or.inr ⟨before, rest, held⟩
  · rintro (⟨rfl, held⟩ | ⟨before, begins, held⟩)
    · exact ⟨[], List.cons_prefix_cons.2 ⟨rfl, List.nil_prefix⟩, held⟩
    · exact ⟨first :: before, List.cons_prefix_cons.2 ⟨rfl, begins⟩, held⟩

/-- The search finds the nearest declarator, unless it ends before. -/
theorem enclosingDeclarator_eq_some_iff {around : List Node} {declarator : Node} :
    enclosingDeclarator around = some declarator ↔
      ∃ between, between ++ [declarator] <+: around ∧ declarator.kind = .variableDeclarator ∧
        ∀ node ∈ between, node.kind ≠ .variableDeclarator ∧ isBoundary node.kind = false := by
  induction around with
  | nil => simp [enclosingDeclarator]
  | cons node around ih =>
      rw [enclosingDeclarator, exists_concat_prefix_cons_iff]
      by_cases boundary : isBoundary node.kind = true
      · have other : node.kind ≠ .variableDeclarator := by
          intro same
          rw [same] at boundary
          cases boundary
        rw [if_pos boundary]
        constructor
        · intro found
          cases found
        · rintro (⟨rfl, declares, _⟩ | ⟨between, _, _, passes⟩)
          · exact absurd declares other
          · exact absurd boundary (by simp [(passes node List.mem_cons_self).2])
      · rw [if_neg boundary]
        by_cases declares : node.kind = .variableDeclarator
        · rw [if_pos declares]
          constructor
          · intro found
            cases found
            exact Or.inl ⟨rfl, declares, List.forall_mem_nil _⟩
          · rintro (⟨rfl, _⟩ | ⟨between, _, _, passes⟩)
            · rfl
            · exact absurd declares (passes node List.mem_cons_self).1
        · rw [if_neg declares, ih]
          constructor
          · rintro ⟨between, begins, declares', passes⟩
            refine Or.inr ⟨between, begins, declares', ?_⟩
            exact List.forall_mem_cons.2 ⟨⟨declares, Bool.eq_false_iff.2 boundary⟩, passes⟩
          · rintro (⟨rfl, declares', _⟩ | ⟨between, begins, declares', passes⟩)
            · exact absurd declares' declares
            · exact ⟨between, begins, declares', (List.forall_mem_cons.1 passes).2⟩

/-!
### What is found
-/

section
variable {place : Place} {between : List Node} {declarator : Node}

/-- The nodes between a place and a declarator around it are none of them the outermost node. -/
theorem mem_dropLast_of_mem_between (around : between ++ [declarator] <+: place.around)
    {node : Node} (known : node ∈ between) : node ∈ place.around.dropLast := by
  obtain ⟨outer, whole⟩ := around
  rw [← whole, List.append_assoc, List.dropLast_append_of_ne_nil (by simp)]
  exact List.mem_append_left _ known

/-- What lies between a place and its nearest declarator is all that comes before a declarator. -/
theorem IsNearestDeclarator.between_eq (nearest : IsNearestDeclarator place between declarator) :
    between = place.around.takeWhile (·.kind != .variableDeclarator) := by
  obtain ⟨⟨outer, whole⟩, declares, others⟩ := nearest
  rw [← whole, List.append_assoc, List.takeWhile_append_of_pos]
  · simp [declares]
  · intro node known
    simpa using others node known

end

/-- What the search finds is the nearest declarator. Between the place and the declarator there is
nothing that closes a scope, except for generators and signatures, through which the search passes;
so the place initializes the declarator exactly if it lies in its value, and not in its pattern or
its type, and there is none of those between them. If a place initializes its nearest declarator,
that is the one that is found. -/
theorem found_declarator_initializes_iff (place : Place)
    (rooted : ∀ node ∈ place.around.dropLast, node.kind ≠ .program) :
    (∀ declarator, enclosingDeclarator place.around = some declarator →
      ∃ between, IsNearestDeclarator place between declarator ∧
        (Initializes place between declarator ↔
          LiesInValue place between declarator ∧
            ∀ node ∈ between, isPassed node.kind = false)) ∧
      ∀ between declarator, IsNearestDeclarator place between declarator →
        Initializes place between declarator →
          enclosingDeclarator place.around = some declarator := by
  constructor
  · intro declarator found
    obtain ⟨between, around, declares, passes⟩ := enclosingDeclarator_eq_some_iff.1 found
    refine ⟨between, ⟨around, declares, fun node known => (passes node known).1⟩, ?_⟩
    constructor
    · rintro ⟨inValue, unclosed⟩
      exact ⟨inValue, fun node known => isPassed_eq_false_of_not_closesScope (unclosed node known)⟩
    · rintro ⟨inValue, unpassed⟩
      refine ⟨inValue, ?_⟩
      intro node known
      have goesOn := (passes node known).2
      rw [isBoundary_eq, unpassed node known, Bool.or_eq_false_iff] at goesOn
      simpa using goesOn.2
  · rintro between declarator ⟨around, declares, nearest⟩ ⟨_, unclosed⟩
    refine enclosingDeclarator_eq_some_iff.2 ⟨between, around, declares, ?_⟩
    intro node known
    refine ⟨nearest node known, ?_⟩
    have inner := rooted node (mem_dropLast_of_mem_between around known)
    rw [isBoundary_eq, unclosed node known]
    simpa using inner

/-- The call of `require` in `const x = f(require('l'))`. -/
def argumentCall : Node :=
  .mk .callExpression .member 12 24
    [.mk .identifier .callee 12 19 [],
      .mk .arguments .arguments 19 24
        [.mk .string .member 20 23 [.mk .stringFragment .member 21 22 []]]]

/-- The value of the declarator there. -/
def valueCall : Node :=
  .mk .callExpression .value 10 25
    [.mk .identifier .callee 10 11 [], .mk .arguments .arguments 11 25 [argumentCall]]

/-- The declarator. -/
def callDeclarator : Node :=
  .mk .variableDeclarator .member 6 25 [.mk .identifier .name 6 7 [], valueCall]

/-- The place of the call of `require`. -/
def argumentPlace : Place where
  around :=
    [.mk .arguments .arguments 11 25 [argumentCall], valueCall, callDeclarator,
      .mk .lexicalDeclaration .member 0 25 [callDeclarator],
      .mk .program .member 0 25 [.mk .lexicalDeclaration .member 0 25 [callDeclarator]]]
  node := argumentCall

/-- An argument of a call initializes the declarator whose value the call is. -/
theorem argument_initializes_declarator :
    enclosingDeclarator argumentPlace.around = some callDeclarator ∧
      ∃ between, Initializes argumentPlace between callDeclarator := by
  have rooted : ∀ node ∈ argumentPlace.around.dropLast, node.kind ≠ .program := by decide
  have found : enclosingDeclarator argumentPlace.around = some callDeclarator := rfl
  obtain ⟨between, nearest, initializes⟩ :=
    (found_declarator_initializes_iff argumentPlace rooted).1 callDeclarator found
  refine ⟨found, between, initializes.2 ?_⟩
  rw [nearest.between_eq]
  exact ⟨rfl, by decide⟩

/-!
### Declarators that are found for calls elsewhere
-/

/-- At a call in a script the names of a declarator are reported that the call does not
initialize. -/
def ReportsForeign (text : String) (names : List String) : Prop :=
  ∃ place declarator, place.Within (Place.root (Tree.ofSource .javascript text).root) ∧
    place.node.kind = .callExpression ∧ enclosingDeclarator place.around = some declarator ∧
    (declaratorBound (Source.ofString text) declarator).names = names ∧
    ∀ between, IsNearestDeclarator place between declarator →
      ¬ Initializes place between declarator

/-- Whether a scope is closed between a place and its nearest declarator, or the place begins before
or behind the value of that. -/
def isForeign (place : Place) (declarator : Node) : Bool :=
  let between := place.around.takeWhile (·.kind != .variableDeclarator)
  between.any (closesScope ·.kind) ||
    (place.node :: between).getLast?.map Node.start != (declarator.child? .value).map Node.start

theorem not_initializes_of_isForeign {place : Place} {between : List Node} {declarator : Node}
    (foreign : isForeign place declarator = true)
    (nearest : IsNearestDeclarator place between declarator) :
    ¬ Initializes place between declarator := by
  rintro ⟨inValue, unclosed⟩
  rw [isForeign, ← nearest.between_eq, Bool.or_eq_true, List.any_eq_true, bne_iff_ne] at foreign
  rcases foreign with ⟨node, known, closes⟩ | elsewhere
  · rw [unclosed node known] at closes
    cases closes
  · exact elsewhere (congrArg (Option.map Node.start) inValue)

theorem reportsForeign_of_isForeign {text : String} {names : List String} (numbers : List Nat)
    (checks : ((Place.root (Tree.ofSource .javascript text).root).at? numbers).any
      (fun place => place.node.kind == .callExpression &&
        (enclosingDeclarator place.around).any fun declarator =>
          (declaratorBound (Source.ofString text) declarator).names == names &&
            isForeign place declarator) = true) :
    ReportsForeign text names := by
  obtain ⟨place, found, facts⟩ := (Option.any_eq_true _ _).1 checks
  rw [Bool.and_eq_true, beq_iff_eq] at facts
  obtain ⟨declarator, declares, facts'⟩ := (Option.any_eq_true _ _).1 facts.2
  rw [Bool.and_eq_true, beq_iff_eq] at facts'
  exact ⟨place, declarator, Place.within_of_at? found, facts.1, declares, facts'.1,
    fun between nearest => not_initializes_of_isForeign facts'.2 nearest⟩

/-- A default value in the parameters of a generator is reported with the names of the declarator
around the generator, and a default value in a pattern with the names of the pattern. -/
theorem defaults_report_foreign_names :
    ReportsForeign "const x = function*(a = require('l')) \x7b\x7d" ["x"] ∧
      ReportsForeign "const \x7b a = require('l') \x7d = b" ["a"] := by
  constructor
  · exact reportsForeign_of_isForeign [0, 0, 1, 0, 0, 1] (by decide +kernel)
  · exact reportsForeign_of_isForeign [0, 0, 0, 0, 1] (by decide +kernel)

end ModuleAlias.Replacement
