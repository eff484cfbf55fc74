/-
Module: ModuleAlias.Proofs.Script.BindingPatterns
Purpose: Binding patterns apart from how they are written, and the names that they bind. A node of a
  syntax tree stands for a pattern if its children do, with comments anywhere among them. Keys that
  are computed and default values stay nodes: they are expressions of any kind, and bind nothing.
Imports: ModuleAlias.Script.Source
Main exports: Script.BindingPattern, Script.BindingPattern.boundNames, Script.IsPattern
-/
import ModuleAlias.Script.Source

namespace ModuleAlias.Script

/-!
### Patterns
-/

/-- The key of a property: as it is spelled in the source, or the expression that computes it. -/
inductive PropertyKey where
  | word (spelling : String)
  | string (literal : String)
  | number (literal : String)
  | privateName (spelling : String)
  | computed (expression : Node)

mutual

/-- What is on the left of a declaration: a name, or the parts of an object or of a list. -/
inductive BindingPattern where
  | name (spelling : String)
  | object (properties : List BindingProperty)
  | array (elements : List BindingElement)

/-- A part of an object: a property named like the variable that takes its value, a property under a
key, or all the others. -/
inductive BindingProperty where
  | shorthand (spelling : String) (given : Option Node)
  | keyed (key : PropertyKey) (target : BindingPattern) (given : Option Node)
  | rest (target : BindingPattern)

/-- A part of a list: nothing, an element, or all the others. -/
inductive BindingElement where
  | hole
  | item (target : BindingPattern) (given : Option Node)
  | rest (target : BindingPattern)

end

mutual

/-- The names that a pattern binds, in the order of the source, each as often as it is bound. -/
def BindingPattern.boundNames : BindingPattern → List String
  | .name spelling => [spelling]
  | .object properties => BindingProperty.allBoundNames properties
  | .array elements => BindingElement.allBoundNames elements

/-- The names that a property binds. -/
def BindingProperty.boundNames : BindingProperty → List String
  | .shorthand spelling _ => [spelling]
  | .keyed _ target _ => target.boundNames
  | .rest target => target.boundNames

/-- The names that properties bind. -/
def BindingProperty.allBoundNames : List BindingProperty → List String
  | [] => []
  | property :: properties => property.boundNames ++ BindingProperty.allBoundNames properties

/-- The names that an element binds. -/
def BindingElement.boundNames : BindingElement → List String
  | .hole => []
  | .item target _ => target.boundNames
  | .rest target => target.boundNames

/-- The names that elements bind. -/
def BindingElement.allBoundNames : List BindingElement → List String
  | [] => []
  | element :: elements => element.boundNames ++ BindingElement.allBoundNames elements

end

theorem BindingProperty.allBoundNames_eq_flatMap (properties : List BindingProperty) :
    allBoundNames properties = properties.flatMap boundNames := by
  induction properties with
  | nil => rfl
  | cons property properties ih => rw [allBoundNames, ih, List.flatMap_cons]

/-- The key of the property that is taken into a variable, and the variable, where a property of a
pattern does just that. -/
def BindingProperty.takes : BindingProperty → List (PropertyKey × String)
  | .shorthand spelling none => [(.word spelling, spelling)]
  | .keyed key (.name spelling) none => [(key, spelling)]
  | _ => []

/-- The properties that a pattern takes into variables. -/
def BindingPattern.takes : BindingPattern → List (PropertyKey × String)
  | .object properties => properties.flatMap BindingProperty.takes
  | _ => []

/-!
### Trees of patterns
-/

/-- Where each node of a list stands for something, the list does, if lists stand for what their
nodes stand for. -/
theorem exists_of_each {β : Type} {one : Node → β → Prop} {all : List Node → List β → Prop}
    (nil : all [] [])
    (cons : ∀ {node : Node} {nodes : List Node} {meaning : β} {meanings : List β},
      one node meaning → all nodes meanings → all (node :: nodes) (meaning :: meanings))
    {nodes : List Node} (each : ∀ node ∈ nodes, ∃ meaning, one node meaning) :
    ∃ meanings, all nodes meanings := by
  induction nodes with
  | nil => exact ⟨[], nil⟩
  | cons node nodes ih =>
      obtain ⟨⟨meaning, first⟩, tail⟩ := List.forall_mem_cons.1 each
      obtain ⟨meanings, more⟩ := ih tail
      exact ⟨meaning :: meanings, cons first more⟩

/-- A comment plays no part in its parent and has no children. -/
def IsComment : Node → Prop
  | .mk kind part _ _ children => kind = .comment ∧ part = .member ∧ children = []

/-- The nodes of a list that are left when comments are passed over. -/
inductive AmongComments : List Node → List Node → Prop
  | nil : AmongComments [] []
  | comment {comment : Node} {nodes items : List Node} (isComment : IsComment comment)
      (more : AmongComments nodes items) : AmongComments (comment :: nodes) items
  | item {item : Node} {nodes items : List Node} (more : AmongComments nodes items) :
      AmongComments (item :: nodes) (item :: items)

/-- Where there are no comments, all nodes are left. -/
theorem AmongComments.refl (nodes : List Node) : AmongComments nodes nodes := by
  induction nodes with
  | nil => exact .nil
  | cons node nodes ih => exact .item ih

section
variable {nodes items : List Node}

/-- What comments give nothing to is the same without them. -/
theorem AmongComments.flatMap_eq {β : Type} {results : Node → List β}
    (nothing : ∀ comment, IsComment comment → results comment = [])
    (among : AmongComments nodes items) : nodes.flatMap results = items.flatMap results := by
  induction among with
  | nil => rfl
  | comment isComment _ ih =>
      rw [List.flatMap_cons, nothing _ isComment, List.nil_append, ih]
  | item _ ih => rw [List.flatMap_cons, List.flatMap_cons, ih]

theorem AmongComments.filter_eq {condition : Node → Bool}
    (fails : ∀ comment, IsComment comment → condition comment = false)
    (among : AmongComments nodes items) : nodes.filter condition = items.filter condition := by
  induction among with
  | nil => rfl
  | comment isComment _ ih =>
      rw [List.filter_cons, fails _ isComment, if_neg Bool.false_ne_true, ih]
  | item _ ih => rw [List.filter_cons, List.filter_cons, ih]

/-- The first node of a kind is no comment. -/
theorem AmongComments.childOfKind?_eq (kind : Kind) (other : kind ≠ .comment)
    (among : AmongComments nodes items) :
    nodes.find? (fun child => child.kind == kind) =
      items.find? fun child => child.kind == kind := by
  rw [← List.head?_filter, ← List.head?_filter, among.filter_eq]
  rintro ⟨_, part, start, stop, children⟩ ⟨rfl, -, -⟩
  exact beq_false_of_ne other.symm

/-- The first node that plays a part is no comment. -/
theorem AmongComments.child?_eq (part : Part) (other : part ≠ .member)
    (among : AmongComments nodes items) :
    nodes.find? (fun child => child.part == part) =
      items.find? fun child => child.part == part := by
  rw [← List.head?_filter, ← List.head?_filter, among.filter_eq]
  rintro ⟨kind, _, start, stop, children⟩ ⟨-, rfl, -⟩
  exact beq_false_of_ne other.symm

end

/-- A node stands for the key of a property. -/
inductive IsKey (source : Source) : Node → PropertyKey → Prop
  | word {part : Part} {start stop : Nat} {children : List Node} :
      IsKey source (.mk .propertyIdentifier part start stop children)
        (.word (source.slice start stop))
  | string {part : Part} {start stop : Nat} {children : List Node} :
      IsKey source (.mk .string part start stop children) (.string (source.slice start stop))
  | number {part : Part} {start stop : Nat} {children : List Node} :
      IsKey source (.mk .number part start stop children) (.number (source.slice start stop))
  | privateName {part : Part} {start stop : Nat} {children : List Node} :
      IsKey source (.mk .privateIdentifier part start stop children)
        (.privateName (source.slice start stop))
  | computed {part : Part} {start stop : Nat} {children : List Node} {expression : Node}
      (inner : AmongComments children [expression]) :
      IsKey source (.mk .computedPropertyName part start stop children) (.computed expression)

mutual

/-- A node stands for a binding pattern. -/
inductive IsPattern (source : Source) : Node → BindingPattern → Prop
  | name {part : Part} {start stop : Nat} {children : List Node} :
      IsPattern source (.mk .identifier part start stop children) (.name (source.slice start stop))
  | object {part : Part} {start stop : Nat} {children : List Node}
      {properties : List BindingProperty} (inner : AreProperties source children properties) :
      IsPattern source (.mk .objectPattern part start stop children) (.object properties)
  | array {part : Part} {start stop : Nat} {children : List Node}
      {elements : List BindingElement} (inner : AreElements source children elements) :
      IsPattern source (.mk .arrayPattern part start stop children) (.array elements)

/-- A node stands for a pattern that may have a default value. -/
inductive IsTarget (source : Source) : Node → BindingPattern → Option Node → Prop
  | plain {node : Node} {target : BindingPattern} (pattern : IsPattern source node target) :
      IsTarget source node target none
  | withDefault {part : Part} {start stop : Nat} {children : List Node} {node given : Node}
      {target : BindingPattern} (inner : AmongComments children [node, given])
      (left : node.part = .left) (pattern : IsPattern source node target) :
      IsTarget source (.mk .assignmentPattern part start stop children) target (some given)

/-- A node stands for a property. -/
inductive IsProperty (source : Source) : Node → BindingProperty → Prop
  | shorthand {part : Part} {start stop : Nat} {children : List Node} :
      IsProperty source (.mk .shorthandIdentifierPattern part start stop children)
        (.shorthand (source.slice start stop) none)
  | shorthandWithDefault {part : Part} {start stop : Nat} {children : List Node}
      {node given : Node} {spelling : String} (inner : AmongComments children [node, given])
      (left : node.part = .left) (plain : IsProperty source node (.shorthand spelling none)) :
      IsProperty source (.mk .objectAssignmentPattern part start stop children)
        (.shorthand spelling (some given))
  | keyed {part : Part} {start stop : Nat} {children : List Node} {keyNode node : Node}
      {key : PropertyKey} {target : BindingPattern} {given : Option Node}
      (inner : AmongComments children [keyNode, node]) (named : IsKey source keyNode key)
      (apart : keyNode.part ≠ .value) (value : node.part = .value)
      (pattern : IsTarget source node target given) :
      IsProperty source (.mk .pairPattern part start stop children) (.keyed key target given)
  | rest {part : Part} {start stop : Nat} {children : List Node} {node : Node}
      {target : BindingPattern} (inner : AmongComments children [node])
      (pattern : IsPattern source node target) :
      IsProperty source (.mk .restPattern part start stop children) (.rest target)

/-- Nodes stand for properties, with comments among them. -/
inductive AreProperties (source : Source) : List Node → List BindingProperty → Prop
  | nil : AreProperties source [] []
  | comment {comment : Node} {nodes : List Node} {properties : List BindingProperty}
      (isComment : IsComment comment) (more : AreProperties source nodes properties) :
      AreProperties source (comment :: nodes) properties
  | property {node : Node} {nodes : List Node} {property : BindingProperty}
      {properties : List BindingProperty} (first : IsProperty source node property)
      (more : AreProperties source nodes properties) :
      AreProperties source (node :: nodes) (property :: properties)

/-- A node stands for an element. -/
inductive IsElement (source : Source) : Node → BindingElement → Prop
  | item {node : Node} {target : BindingPattern} {given : Option Node}
      (pattern : IsTarget source node target given) : IsElement source node (.item target given)
  | rest {part : Part} {start stop : Nat} {children : List Node} {node : Node}
      {target : BindingPattern} (inner : AmongComments children [node])
      (pattern : IsPattern source node target) :
      IsElement source (.mk .restPattern part start stop children) (.rest target)

/-- Nodes stand for elements, with comments among them. An element that is left out has no node. -/
inductive AreElements (source : Source) : List Node → List BindingElement → Prop
  | nil : AreElements source [] []
  | comment {comment : Node} {nodes : List Node} {elements : List BindingElement}
      (isComment : IsComment comment) (more : AreElements source nodes elements) :
      AreElements source (comment :: nodes) elements
  | hole {nodes : List Node} {elements : List BindingElement}
      (more : AreElements source nodes elements) : AreElements source nodes (.hole :: elements)
  | element {node : Node} {nodes : List Node} {element : BindingElement}
      {elements : List BindingElement} (first : IsElement source node element)
      (more : AreElements source nodes elements) :
      AreElements source (node :: nodes) (element :: elements)

end

end ModuleAlias.Script
