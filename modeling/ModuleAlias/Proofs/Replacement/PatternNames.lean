/-
Module: ModuleAlias.Proofs.Replacement.PatternNames
Purpose: The names that are reported for a declarator are those that its pattern binds. Keys, the
  expressions that compute them and default values name nothing, however patterns are nested.
Imports: ModuleAlias.Proofs.Script.PatternReaders, ModuleAlias.Replacement.Names
Main exports: Replacement.patternNames_of_isPattern, Replacement.declared_names_are_bound_names
-/
import ModuleAlias.Proofs.Script.PatternReaders
import ModuleAlias.Replacement.Names

namespace ModuleAlias.Replacement

open Script

section
variable {source : Source}

/-!
### Nodes of each kind
-/

theorem patternNames_objectPattern {part : Part} {start stop : Nat} {children : List Node} :
    patternNames source (.mk .objectPattern part start stop children) =
      allNames source children := by
  rw [patternNames] <;> exact nofun

theorem patternNames_arrayPattern {part : Part} {start stop : Nat} {children : List Node} :
    patternNames source (.mk .arrayPattern part start stop children) =
      allNames source children := by
  rw [patternNames] <;> exact nofun

theorem patternNames_restPattern {part : Part} {start stop : Nat} {children : List Node} :
    patternNames source (.mk .restPattern part start stop children) =
      allNames source children := by
  rw [patternNames] <;> exact nofun

/-- A comment binds nothing. -/
theorem patternNames_of_isComment {comment : Node} (isComment : IsComment comment) :
    patternNames source comment = [] := by
  obtain ⟨kind, part, start, stop, children⟩ := comment
  obtain ⟨rfl, -, rfl⟩ := isComment
  rw [patternNames, allNames] <;> exact nofun

/-!
### Comments

The names of a node come from all of its children or from the first that plays a part. Neither
depends on comments.
-/

theorem allNames_eq_flatMap (nodes : List Node) :
    allNames source nodes = nodes.flatMap (patternNames source) := by
  induction nodes with
  | nil => rfl
  | cons node nodes ih => rw [allNames, ih, List.flatMap_cons]

theorem partNames_eq_find? (part : Part) (nodes : List Node) :
    partNames source part nodes =
      ((nodes.find? fun child => child.part == part).map (patternNames source)).getD [] := by
  induction nodes with
  | nil => rfl
  | cons node nodes ih =>
      rw [partNames, List.find?_cons]
      by_cases plays : node.part = part
      · rw [if_pos plays, beq_iff_eq.2 plays]
        rfl
      · rw [if_neg plays, beq_false_of_ne plays, ih]

theorem allNames_of_amongComments {nodes items : List Node} (among : AmongComments nodes items) :
    allNames source nodes = allNames source items := by
  rw [allNames_eq_flatMap, allNames_eq_flatMap]
  exact among.flatMap_eq fun _ => patternNames_of_isComment

theorem partNames_of_amongComments (part : Part) (other : part ≠ .member) {nodes items : List Node}
    (among : AmongComments nodes items) :
    partNames source part nodes = partNames source part items := by
  rw [partNames_eq_find?, partNames_eq_find?, among.child?_eq part other]

/-- The first node that plays a part gives the names of the part. -/
theorem partNames_cons {part : Part} {node : Node} {nodes : List Node} (plays : node.part = part) :
    partNames source part (node :: nodes) = patternNames source node := by
  rw [partNames, if_pos plays]

/-!
### The names of a pattern

One equation for each form of a pattern. Where a node has a default value, its names are those of
the node that plays the left part; where it has a key, those of the node that plays the value.
-/

mutual

theorem patternNames_of_isPattern {node : Node} {pattern : BindingPattern}
    (stands : IsPattern source node pattern) :
    patternNames source node = pattern.boundNames :=
  match stands with
  | .name => by rw [patternNames, BindingPattern.boundNames]
  | .object inner => by
      rw [patternNames_objectPattern, BindingPattern.boundNames]
      exact allNames_of_areProperties inner
  | .array inner => by
      rw [patternNames_arrayPattern, BindingPattern.boundNames]
      exact allNames_of_areElements inner

theorem patternNames_of_isTarget {node : Node} {target : BindingPattern} {given : Option Node}
    (stands : IsTarget source node target given) :
    patternNames source node = target.boundNames :=
  match stands with
  | .plain pattern => patternNames_of_isPattern pattern
  | .withDefault inner left pattern => by
      rw [patternNames, partNames_of_amongComments .left nofun inner, partNames_cons left]
      exact patternNames_of_isPattern pattern

theorem patternNames_of_isProperty {node : Node} {property : BindingProperty}
    (stands : IsProperty source node property) :
    patternNames source node = property.boundNames :=
  match stands with
  | .shorthand => by rw [patternNames, BindingProperty.boundNames]
  | .shorthandWithDefault inner left plain => by
      rw [patternNames, partNames_of_amongComments .left nofun inner, partNames_cons left,
        patternNames_of_isProperty plain, BindingProperty.boundNames, BindingProperty.boundNames]
  | .keyed inner _ apart value pattern => by
      rw [patternNames, partNames_of_amongComments .value nofun inner, partNames, if_neg apart,
        partNames_cons value, BindingProperty.boundNames]
      exact patternNames_of_isTarget pattern
  | .rest inner pattern => by
      rw [patternNames_restPattern, allNames_of_amongComments inner, allNames, allNames,
        List.append_nil, BindingProperty.boundNames]
      exact patternNames_of_isPattern pattern

theorem allNames_of_areProperties {nodes : List Node} {properties : List BindingProperty}
    (stand : AreProperties source nodes properties) :
    allNames source nodes = BindingProperty.allBoundNames properties :=
  match stand with
  | .nil => by rw [allNames, BindingProperty.allBoundNames]
  | .comment isComment more => by
      rw [allNames, patternNames_of_isComment isComment, List.nil_append]
      exact allNames_of_areProperties more
  | .property first more => by
      rw [allNames, BindingProperty.allBoundNames, patternNames_of_isProperty first,
        allNames_of_areProperties more]

theorem patternNames_of_isElement {node : Node} {element : BindingElement}
    (stands : IsElement source node element) :
    patternNames source node = element.boundNames :=
  match stands with
  | .item pattern => by
      rw [BindingElement.boundNames]
      exact patternNames_of_isTarget pattern
  | .rest inner pattern => by
      rw [patternNames_restPattern, allNames_of_amongComments inner, allNames, allNames,
        List.append_nil, BindingElement.boundNames]
      exact patternNames_of_isPattern pattern

theorem allNames_of_areElements {nodes : List Node} {elements : List BindingElement}
    (stand : AreElements source nodes elements) :
    allNames source nodes = BindingElement.allBoundNames elements :=
  match stand with
  | .nil => by rw [allNames, BindingElement.allBoundNames]
  | .comment isComment more => by
      rw [allNames, patternNames_of_isComment isComment, List.nil_append]
      exact allNames_of_areElements more
  | .hole more => by
      rw [BindingElement.allBoundNames, BindingElement.boundNames, List.nil_append]
      exact allNames_of_areElements more
  | .element first more => by
      rw [allNames, BindingElement.allBoundNames, patternNames_of_isElement first,
        allNames_of_areElements more]

end

end

/-- Whatever the grammar reads as a pattern stands for a binding pattern; and of a node that stands
for one, the names that are found are those that the pattern binds, as they are for every declarator
that has the node for its pattern. -/
theorem declared_names_are_bound_names (source : Source) (node : Node) :
    (∀ language depth cursor after,
      (Grammar.ofDepth language depth).pattern cursor = some (node, after) →
        ∃ pattern, IsPattern source node pattern) ∧
    ∀ pattern, IsPattern source node pattern →
      patternNames source node = pattern.boundNames ∧
        ∀ declarator : Node, declarator.child? .name = some node →
          (declaratorBound source declarator).names = pattern.boundNames := by
  constructor
  · intro language depth cursor after read
    exact exists_isPattern_of_read source language depth read
  · intro pattern stands
    have names := patternNames_of_isPattern stands
    refine ⟨names, fun declarator found => ?_⟩
    rw [declaratorBound, found]
    exact names

/-- A script that is one pattern. -/
def mixedSource : Source :=
  .ofString "\x7b a: [x, , y = z], /* v */ [k]: \x7b ...r \x7d, d = w \x7d"

/-- Its pattern, with a list below a key, an element left out, a comment, a computed key, the rest
of an object, and default values. -/
def mixedPattern : Node :=
  .mk .objectPattern .name 0 49
    [.mk .pairPattern .member 2 17
      [.mk .propertyIdentifier .member 2 3 [],
        .mk .arrayPattern .value 5 17
          [.mk .identifier .member 6 7 [],
            .mk .assignmentPattern .member 11 16
              [.mk .identifier .left 11 12 [], .mk .identifier .value 15 16 []]]],
      .mk .comment .member 19 26 [],
      .mk .pairPattern .member 27 40
        [.mk .computedPropertyName .member 27 30 [.mk .identifier .member 28 29 []],
          .mk .objectPattern .value 32 40
            [.mk .restPattern .member 34 38 [.mk .identifier .member 37 38 []]]],
      .mk .objectAssignmentPattern .member 42 47
        [.mk .shorthandIdentifierPattern .left 42 43 [], .mk .identifier .value 46 47 []]]

/-- Of the names in it, the pattern binds those of its elements, its values and its shorthands. -/
theorem mixedPattern_names :
    (declaratorBound mixedSource (.mk .variableDeclarator .member 0 49 [mixedPattern])).names =
      ["x", "y", "r", "d"] := by
  have list : AreElements mixedSource
      [.mk .identifier .member 6 7 [], .mk .assignmentPattern .member 11 16
        [.mk .identifier .left 11 12 [], .mk .identifier .value 15 16 []]] _ :=
    .element (.item (.plain .name))
      (.hole (.element (.item (.withDefault (.refl _) rfl .name)) .nil))
  have computed : IsProperty mixedSource
      (.mk .pairPattern .member 27 40
        [.mk .computedPropertyName .member 27 30 [.mk .identifier .member 28 29 []],
          .mk .objectPattern .value 32 40
            [.mk .restPattern .member 34 38 [.mk .identifier .member 37 38 []]]]) _ :=
    .keyed (.refl _) (.computed (.refl _)) nofun rfl
      (.plain (.object (.property (.rest (.refl _) .name) .nil)))
  have stands : IsPattern mixedSource mixedPattern _ :=
    .object
      (.property (.keyed (.refl _) .word nofun rfl (.plain (.array list)))
        (.comment ⟨rfl, rfl, rfl⟩
          (.property computed
            (.property (.shorthandWithDefault (.refl _) rfl .shorthand) .nil))))
  exact (((declared_names_are_bound_names _ _).2 _ stands).2 _ rfl).trans (by decide +kernel)

end ModuleAlias.Replacement
