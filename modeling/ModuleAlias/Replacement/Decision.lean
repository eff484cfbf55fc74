/-
Module: ModuleAlias.Replacement.Decision
Purpose: Decides what becomes of an import statement and of a call. Both come down to one literal
  that names a module: where an alias applies to it, the whole node is replaced by a look-up if the
  module is external, and otherwise the literal alone by the resolved specifier, if that differs.
Imports: ModuleAlias.Replacement.Names, ModuleAlias.Alias.Resolution, ModuleAlias.Configuration,
  ModuleAlias.Literal.Escape
Main exports: Replacement, Replacement.Outcome, Replacement.Task, Replacement.decide
-/
import ModuleAlias.Replacement.Names
import ModuleAlias.Alias.Resolution
import ModuleAlias.Configuration
import ModuleAlias.Literal.Escape

namespace ModuleAlias

/-- What a replacement puts in place: a resolved specifier, or the look-up of an external module. -/
inductive ReplacementKind where
  | specifier
  | external
deriving DecidableEq, Repr

/-- The word for a kind of replacement. -/
def ReplacementKind.word : ReplacementKind → String
  | .specifier => "specifier"
  | .external => "external"

/-- A range of a source and what to put in its place. -/
structure Replacement where
  kind : ReplacementKind
  /-- The kind of the node that was visited. -/
  node : Script.Kind
  start : Nat
  stop : Nat
  /-- The line on which the visited node starts. -/
  line : Nat
  replaced : String
  text : Text
  specifier : Text
  resolved : Text
  binding : Option External.Binding
deriving DecidableEq, Repr

namespace Replacement

open Script

/-- Why a node is left alone. -/
inductive SkipReason where
  | noAliases
  | invalidSpecifier
  | notRequire
  | noArguments
  | noMatch
deriving DecidableEq, Repr

/-- The word for a reason. -/
def SkipReason.word : SkipReason → String
  | .noAliases => "no_alias_configured"
  | .invalidSpecifier => "invalid_specifier"
  | .notRequire => "not_require"
  | .noArguments => "no_arguments"
  | .noMatch => "no_match"

/-- What becomes of a node. A specifier that an alias resolves to itself is kept. -/
inductive Outcome where
  | skipped (reason : SkipReason)
  | kept (specifier : Text) (found : Alias.Match)
  | replaced (specifier : Text) (found : Alias.Match) (replacement : Replacement)
deriving DecidableEq, Repr

/-- The replacement of an outcome that has one. -/
def Outcome.replacement? : Outcome → Option Replacement
  | .replaced _ _ replacement => some replacement
  | _ => none

/-- What the decisions for one file depend on, the configuration apart. -/
structure Task where
  source : Source
  importer : Alias.Importer
  dependencies : Dependencies
  globalObject : Text

/-!
### Literals
-/

/-- The pieces of a string literal. -/
def literalPieces (source : Source) (literal : Node) : List Literal.Piece :=
  literal.children.map fun piece =>
    let text := (source.textOf piece).toList
    if piece.kind = .escapeSequence then .escape text else .plain text

/-- The value of a string literal. -/
def literalValue (source : Source) (literal : Node) : Except Fault Text :=
  match Literal.valueOf (literalPieces source literal) with
  | .ok value => .ok value
  | .error .tooLarge => .error .escapeTooLarge

/-- The quote that a literal begins with. -/
def literalQuote (source : Source) (literal : Node) : Text :=
  match (source.textOf literal).toList with
  | quote :: _ => [.scalar quote]
  | [] => [.scalar '\'']

/-!
### One rule for imports and calls
-/

/-- How a node that names a module by a literal is replaced when the module is external. -/
structure Form where
  bound : Bound
  render : External.Binding → Text

/-- The target of an external module: declared under the target of the alias, or else under the
specifier itself. -/
def externalTarget (configuration : Configuration) (specifier : Text) (found : Alias.Match) :
    Option External.Target :=
  configuration.externals.lookup [some found.entry.target, some specifier]

/-- The replacement of a whole node by the look-up of an external module. -/
def externalReplacement (task : Task) (node : Node) (form : Form) (specifier : Text)
    (found : Alias.Match) (target : External.Target) : Replacement :=
  let binding := External.bind target specifier (form.bound.names.map Text.ofString)
    (form.bound.patterns.map Text.ofString)
  { kind := .external
    node := node.kind
    start := node.start
    stop := node.stop
    line := task.source.lineAt node.start
    replaced := task.source.textOf node
    text := form.render binding
    specifier
    resolved := found.moduleName
    binding := some binding }

/-- The replacement of a literal by the resolved specifier, between the same quotes. -/
def specifierReplacement (task : Task) (node literal : Node) (specifier : Text)
    (found : Alias.Match) : Replacement where
  kind := .specifier
  node := node.kind
  start := literal.start
  stop := literal.stop
  line := task.source.lineAt node.start
  replaced := task.source.textOf literal
  text := Literal.quoted (literalQuote task.source literal) found.specifier
  specifier
  resolved := found.specifier
  binding := none

/-- What becomes of a node that names a module by a literal. -/
def decideLiteral (task : Task) (configuration : Configuration) (node literal : Node)
    (form : Form) : Except Fault Outcome := do
  let specifier ← literalValue task.source literal
  let resolution :=
    Alias.resolve configuration.aliases task.dependencies specifier task.importer
  match resolution.found with
  | none => return .skipped .noMatch
  | some found =>
    match externalTarget configuration specifier found with
    | some target =>
      return .replaced specifier found
        (externalReplacement task node form specifier found target)
    | none =>
      if resolution.changed then
        return .replaced specifier found (specifierReplacement task node literal specifier found)
      else return .kept specifier found

/-!
### Imports
-/

/-- The literal that names the module of an import statement. -/
def importLiteral (statement : Node) : Option Node :=
  match statement.child? .source with
  | some source => some source
  | none =>
    match statement.childOfKind? .importRequireClause with
    | some clause =>
      match clause.child? .source with
      | some source => some source
      | none => clause.childOfKind? .string
    | none => none

/-- How an import is replaced: by a declaration of what it binds. -/
def importForm (task : Task) (statement : Node) : Form where
  bound := importBound task.source statement
  render binding := binding.declaration task.globalObject

/-- What becomes of an import statement. -/
def decideImport (task : Task) (configuration : Configuration) (statement : Node) :
    Except Fault Outcome :=
  if !configuration.hasAliases then .ok (.skipped .noAliases)
  else
    match importLiteral statement with
    | none => .ok (.skipped .invalidSpecifier)
    | some literal =>
      if literal.kind ≠ .string then .ok (.skipped .invalidSpecifier)
      else decideLiteral task configuration statement literal (importForm task statement)

/-!
### Calls
-/

/-- Whether a call is one of the identifier `require`, spelled without escapes. -/
def callsRequire (source : Source) (call : Node) : Bool :=
  match call.child? .callee with
  | some callee => callee.kind == .identifier && source.textOf callee == "require"
  | none => false

/-- The arguments of a call, without the comments between them. -/
def callArguments (call : Node) : List Node :=
  match call.child? .arguments with
  | some arguments => arguments.children.filter fun argument => argument.kind != .comment
  | none => []

/-- How a call is replaced: by an expression, which binds what the declarator around it binds. -/
def callForm (task : Task) (around : List Node) : Form where
  bound :=
    match enclosingDeclarator around with
    | some declarator => declaratorBound task.source declarator
    | none => .none
  render binding := binding.expression task.globalObject

/-- What becomes of a call inside the nodes around it. -/
def decideCall (task : Task) (configuration : Configuration) (around : List Node) (call : Node) :
    Except Fault Outcome :=
  if !configuration.hasAliases then .ok (.skipped .noAliases)
  else if !callsRequire task.source call then .ok (.skipped .notRequire)
  else
    match callArguments call with
    | [] => .ok (.skipped .noArguments)
    | first :: _ =>
      if first.kind ≠ .string then .ok (.skipped .invalidSpecifier)
      else decideLiteral task configuration call first (callForm task around)

/-- Whether a node is one that is decided about. -/
def isCandidate (node : Node) : Bool :=
  node.kind == .importStatement || node.kind == .callExpression

/-- What becomes of a candidate inside the nodes around it. -/
def decide (task : Task) (configuration : Configuration) (around : List Node) (node : Node) :
    Except Fault Outcome :=
  if node.kind = .importStatement then decideImport task configuration node
  else decideCall task configuration around node

end Replacement

end ModuleAlias
