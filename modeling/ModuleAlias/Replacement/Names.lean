/-
Module: ModuleAlias.Replacement.Names
Purpose: The local names that an import or a declaration binds, and the patterns that bind them.
  Where it is an import that binds, it does so through its clause; a required module is bound by the
  declarator whose value, or whose pattern, holds the call. The search for that declarator goes from
  the call outward and ends at a function, a class body or a block.
Imports: ModuleAlias.Script.Source, ModuleAlias.Text
Main exports: Replacement.Bound, Replacement.importBound, Replacement.patternNames,
  Replacement.enclosingDeclarator, Replacement.declaratorBound
-/
import ModuleAlias.Script.Source
import ModuleAlias.Text

namespace ModuleAlias.Replacement

open Script

/-- Names that are bound, in the order of the source, and the patterns that bind them. -/
structure Bound where
  names : List String
  patterns : List String
deriving DecidableEq, Repr

namespace Bound

/-- Nothing bound. -/
def none : Bound := { names := [], patterns := [] }

/-- One name, bound by itself. -/
def one (name : String) : Bound := { names := [name], patterns := [name] }

/-- What is bound by one part and then by another. -/
def append (first second : Bound) : Bound where
  names := first.names ++ second.names
  patterns := first.patterns ++ second.patterns

end Bound

/-!
### Imports
-/

/-- An item of named imports: the local name, and the property that binds it in a pattern. -/
def itemBound (source : Source) (item : Node) : Option (String × String) :=
  match item.child? .name, item.child? .localName with
  | some imported, some renamed =>
    some (source.textOf renamed, source.textOf imported ++ ": " ++ source.textOf renamed)
  | some imported, none => some (source.textOf imported, source.textOf imported)
  | none, _ => none

/-- The pattern that binds properties. -/
def objectPattern (properties : List String) : String :=
  if properties.isEmpty then "\x7b\x7d" else "\x7b " ++ ", ".intercalate properties ++ " \x7d"

/-- What one part of an import clause binds: a default name, all of a module, or a list of items. -/
def clausePartBound (source : Source) (part : Node) : Bound :=
  match part.kind with
  | .identifier => .one (source.textOf part)
  | .namespaceImport =>
    match part.childOfKind? .identifier with
    | some binder => .one (source.textOf binder)
    | none => .none
  | .namedImports =>
    let items := part.children.filter fun item => item.kind == .importSpecifier
    let bound := items.filterMap (itemBound source)
    { names := bound.map (·.1), patterns := [objectPattern (bound.map (·.2))] }
  | _ => .none

/-- What an import statement binds. -/
def importBound (source : Source) (statement : Node) : Bound :=
  match statement.childOfKind? .importClause with
  | some clause => (clause.children.map (clausePartBound source)).foldl Bound.append .none
  | none =>
    match statement.childOfKind? .importRequireClause with
    | some clause =>
      match clause.children with
      | first :: _ => if first.kind = .identifier then .one (source.textOf first) else .none
      | [] => .none
    | none => .none

/-!
### Patterns
-/

mutual

/-- The names that a binding pattern binds, in the order of the source. Of a default value only the
target binds names, and of a keyed property only the value. -/
def patternNames (source : Source) : Node → List String
  | .mk .identifier _ start stop _ => [source.slice start stop]
  | .mk .shorthandIdentifierPattern _ start stop _ => [source.slice start stop]
  | .mk .assignmentPattern _ _ _ children => partNames source .left children
  | .mk .objectAssignmentPattern _ _ _ children => partNames source .left children
  | .mk .pairPattern _ _ _ children => partNames source .value children
  | .mk _ _ _ _ children => allNames source children

/-- The names that the first node of a part binds. -/
def partNames (source : Source) (part : Part) : List Node → List String
  | [] => []
  | node :: nodes =>
    if node.part = part then patternNames source node else partNames source part nodes

/-- The names that the nodes of a list bind. -/
def allNames (source : Source) : List Node → List String
  | [] => []
  | node :: nodes => patternNames source node ++ allNames source nodes

end

/-!
### Declarators
-/

/-- Whether a node of a kind ends the search for a declarator. -/
def isBoundary : Kind → Bool
  | .program | .statementBlock | .functionDeclaration | .functionExpression | .arrowFunction
  | .methodDefinition | .classBody => true
  | _ => false

/-- The nearest declarator among the nodes around a node, listed from the inside out, before a node
that ends the search. -/
def enclosingDeclarator : List Node → Option Node
  | [] => none
  | node :: around =>
    if isBoundary node.kind then none
    else if node.kind = .variableDeclarator then some node
    else enclosingDeclarator around

/-- What a declarator binds. -/
def declaratorBound (source : Source) (declarator : Node) : Bound :=
  match declarator.child? .name with
  | some target => { names := patternNames source target, patterns := [source.textOf target] }
  | none => .none

end ModuleAlias.Replacement
