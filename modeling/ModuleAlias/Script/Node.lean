/-
Module: ModuleAlias.Script.Node
Purpose: Syntax trees of scripts. A node has a kind, the part it plays in its parent, the range of
  bytes of the source that it covers, and its children in the order of the source. Punctuation and
  keywords have no nodes of their own.
Imports: none
Main exports: Script.Kind, Script.Part, Script.Node, Script.Node.child?, Script.Node.size
-/

namespace ModuleAlias.Script

/-- The kinds of nodes. -/
inductive Kind where
  | program
  | comment
  | importStatement
  | importClause
  | importRequireClause
  | namespaceImport
  | namedImports
  | importSpecifier
  | importAttribute
  | importAlias
  | exportStatement
  | exportClause
  | lexicalDeclaration
  | variableDeclaration
  | variableDeclarator
  | functionDeclaration
  | functionExpression
  | generatorDeclaration
  | generatorExpression
  | functionSignature
  | arrowFunction
  | methodDefinition
  | classDeclaration
  | classExpression
  | classHeritage
  | classBody
  | classMember
  | decorator
  | formalParameters
  | statementBlock
  | ifStatement
  | forStatement
  | forInStatement
  | whileStatement
  | doStatement
  | switchStatement
  | switchBody
  | switchCase
  | tryStatement
  | catchClause
  | withStatement
  | labeledStatement
  | returnStatement
  | throwStatement
  | jumpStatement
  | emptyStatement
  | expressionStatement
  | interfaceDeclaration
  | typeAliasDeclaration
  | enumDeclaration
  | enumMember
  | ambientDeclaration
  | internalModule
  | identifier
  | privateIdentifier
  | propertyIdentifier
  | number
  | string
  | stringFragment
  | escapeSequence
  | templateString
  | templateSubstitution
  | regex
  | array
  | object
  | pair
  | spreadElement
  | computedPropertyName
  | parenthesizedExpression
  | callExpression
  | arguments
  | newExpression
  | memberExpression
  | subscriptExpression
  | metaProperty
  | nonNullExpression
  | instantiationExpression
  | operatorExpression
  | ternaryExpression
  | asExpression
  | typeAssertion
  | objectPattern
  | arrayPattern
  | assignmentPattern
  | objectAssignmentPattern
  | pairPattern
  | restPattern
  | shorthandIdentifierPattern
  | shorthandIdentifier
  | markupElement
  | markupAttribute
  | markupExpression
  | typeMark
  | typeArguments
  | typeParameters
  | typeExpression
  | typeQuery
deriving DecidableEq, Repr

/-- The word for a kind of node in a report; only imports and calls are reported. -/
def Kind.word : Kind → String
  | .importStatement => "import_statement"
  | .callExpression => "call_expression"
  | _ => "node"

/-- The part that a node plays in its parent. -/
inductive Part where
  | member
  | name
  | localName
  | source
  | left
  | value
  | callee
  | arguments
deriving DecidableEq, Repr

/-- A node of a syntax tree, with the bytes of the source from `start` up to `stop`. -/
inductive Node where
  | mk (kind : Kind) (part : Part) (start stop : Nat) (children : List Node)
deriving Repr

namespace Node

instance : Inhabited Node := ⟨.mk .program .member 0 0 []⟩

/-- The kind of a node. -/
def kind : Node → Kind
  | .mk kind _ _ _ _ => kind

/-- The part that a node plays in its parent. -/
def part : Node → Part
  | .mk _ part _ _ _ => part

/-- The first byte of a node. -/
def start : Node → Nat
  | .mk _ _ start _ _ => start

/-- The first byte after a node. -/
def stop : Node → Nat
  | .mk _ _ _ stop _ => stop

/-- The children of a node. -/
def children : Node → List Node
  | .mk _ _ _ _ children => children

/-- The first child that plays a part. -/
def child? (node : Node) (part : Part) : Option Node :=
  node.children.find? fun child => child.part == part

/-- The first child of a kind. -/
def childOfKind? (node : Node) (kind : Kind) : Option Node :=
  node.children.find? fun child => child.kind == kind

/-- A node in another part. -/
def withPart (part : Part) : Node → Node
  | .mk kind _ start stop children => .mk kind part start stop children

/-- A node as another kind. -/
def withKind (kind : Kind) : Node → Node
  | .mk _ part start stop children => .mk kind part start stop children

mutual

/-- The number of nodes of a tree. -/
def size : Node → Nat
  | .mk _ _ _ _ children => sizeOfAll children + 1

/-- The number of nodes of a list of trees. -/
def sizeOfAll : List Node → Nat
  | [] => 0
  | node :: nodes => size node + sizeOfAll nodes

end

end Node

end ModuleAlias.Script
