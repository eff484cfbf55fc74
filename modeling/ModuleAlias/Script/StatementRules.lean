/-
Module: ModuleAlias.Script.StatementRules
Purpose: Statements and declarations other than those that import and export.
Imports: ModuleAlias.Script.MarkupRules
Main exports: Script.blockRule, Script.declarationList, Script.simpleStatement,
  Script.typedDeclaration
-/
import ModuleAlias.Script.MarkupRules

namespace ModuleAlias.Script

open Reader

/-- A block. -/
def blockRule (g : Grammar) : Reader Node := do
  let start ← startByte
  mark "\x7b"
  let statements ← many g.statement
  mark "\x7d"
  node .statementBlock start statements

/-- An expression in parentheses, as statements have it. -/
def condition (g : Grammar) : Reader Node := do
  let start ← startByte
  mark "("
  let value ← g.expression {}
  mark ")"
  node .parenthesizedExpression start [value]

/-!
### Declarations of variables
-/

/-- A variable or a pattern with its type and its value. -/
def declarator (g : Grammar) (mode : Mode) : Reader Node := do
  let start ← startByte
  let target ← g.pattern
  if g.language.hasTypes then
    let _ ← markIf "!"
  let type ← typeMarkIf g
  let value ← if ← markIf "=" then pure [(← g.assignment mode).withPart .value] else pure []
  node .variableDeclarator start (target.withPart .name :: (type ++ value))

/-- The kind of declaration that a keyword begins. -/
def declarationKind (keyword : String) : Kind :=
  if keyword == "var" then .variableDeclaration else .lexicalDeclaration

/-- The keyword of a declaration of variables, if one begins here. Some of the keywords are names
unless what follows can be declared. -/
def declarationKeyword : Reader String := do
  let start ← peek
  match start.token with
  | .word spelling =>
    let second := start.after.lexeme
    let declares := match second.token with
      | .word following => isName following && !(["of"].contains following && spelling == "using")
      | .mark "[" => spelling != "using"
      | .mark "\x7b" => spelling != "using"
      | _ => false
    if spelling == "var" || spelling == "const" then
      let _ ← take
      return spelling
    else if spelling == "let" then
      require declares
      let _ ← take
      return spelling
    else if spelling == "using" then
      require (declares && !second.broken)
      let _ ← take
      return spelling
    else if spelling == "await" then
      require (second.token == .word "using" && !second.broken)
      let third := second.after.lexeme
      let names := match third.token with
        | .word following => isName following
        | _ => false
      require (names && !third.broken)
      let _ ← take
      let _ ← take
      return spelling
    else failure
  | _ => failure

/-- A declaration of variables without its end. -/
def declarationList (g : Grammar) (mode : Mode) : Reader Node := do
  let start ← startByte
  let keyword ← declarationKeyword
  require (!(keyword == "const" && (← nextIsWord "enum")))
  let declarators ← separated "," (declarator g mode)
  node (declarationKind keyword) start declarators

/-- A declaration of variables. -/
def declarationStatement (g : Grammar) : Reader Node := do
  let start ← startByte
  let declaration ← declarationList g {}
  semicolon
  return .mk declaration.kind .member start (← stopByte) declaration.children

/-!
### Loops
-/

/-- The head of a loop over the items or the keys of a value. -/
def loopOverHead (g : Grammar) : Reader (List Node) := do
  let declared : Reader (List Node) := do
    let keyword ← declarationKeyword
    let target ← g.pattern
    let type ← typeMarkIf g
    let given ←
      if keyword == "var" && (← nextIsMark "=") then
        mark "="
        pure [← g.assignment { allowsIn := false }]
      else pure []
    return target.withPart .left :: (type ++ given)
  let assigned : Reader (List Node) := do
    return [(← g.operand { allowsIn := false }).withPart .left]
  let closed (left : Reader (List Node)) : Reader (List Node) := do
    let target ← left
    if ← wordIf "of" then
      return target ++ [← g.assignment {}]
    word "in"
    return target ++ [← g.expression {}]
  closed declared <|> closed assigned

/-- The head of a loop with a start, a condition and a step. -/
def countedHead (g : Grammar) : Reader (List Node) := do
  let mode : Mode := { allowsIn := false }
  let first ←
    if ← nextIsMark ";" then pure []
    else
      (do return [← declarationList g mode]) <|> (do return [← g.expression mode])
  mark ";"
  let test ← if ← nextIsMark ";" then pure [] else pure [← g.expression {}]
  mark ";"
  let step ← if ← nextIsMark ")" then pure [] else pure [← g.expression {}]
  return first ++ test ++ step

/-- A `for` loop. -/
def forStatement (g : Grammar) : Reader Node := do
  let start ← startByte
  word "for"
  let _ ← wordIf "await"
  mark "("
  let iterated : Reader (Kind × List Node) := do
    let head ← loopOverHead g
    mark ")"
    return (.forInStatement, head)
  let counted : Reader (Kind × List Node) := do
    let head ← countedHead g
    mark ")"
    return (.forStatement, head)
  let (kind, head) ← iterated <|> counted
  let body ← g.statement
  node kind start (head ++ [body])

/-!
### Other statements with a keyword
-/

/-- A branch. -/
def ifStatement (g : Grammar) : Reader Node := do
  let start ← startByte
  word "if"
  let test ← condition g
  let yes ← g.statement
  let no ← if ← wordIf "else" then pure [← g.statement] else pure []
  node .ifStatement start (test :: yes :: no)

/-- A case of a branch on a value. -/
def switchCase (g : Grammar) : Reader Node := do
  let start ← startByte
  let test ← do
    if ← wordIf "default" then pure []
    else
      word "case"
      pure [← g.expression {}]
  mark ":"
  let statements ← many g.statement
  node .switchCase start (test ++ statements)

/-- A branch on a value. -/
def switchStatement (g : Grammar) : Reader Node := do
  let start ← startByte
  word "switch"
  let subject ← condition g
  let inner ← startByte
  mark "\x7b"
  let cases ← many (switchCase g)
  mark "\x7d"
  let body ← node .switchBody inner cases
  node .switchStatement start [subject, body]

/-- The handler of what a block throws. -/
def catchClause (g : Grammar) : Reader Node := do
  let start ← startByte
  word "catch"
  let caught ← do
    if ← markIf "(" then
      let target ← g.pattern
      let type ← typeMarkIf g
      mark ")"
      pure (target :: type)
    else pure []
  let body ← g.block
  node .catchClause start (caught ++ [body])

/-- A block with handlers. -/
def tryStatement (g : Grammar) : Reader Node := do
  let start ← startByte
  word "try"
  let body ← g.block
  let handler ← if ← nextIsWord "catch" then pure [← catchClause g] else pure []
  let final ← if ← wordIf "finally" then pure [← g.block] else pure []
  node .tryStatement start (body :: (handler ++ final))

/-- A loop that tests first. -/
def whileStatement (g : Grammar) : Reader Node := do
  let start ← startByte
  word "while"
  let test ← condition g
  let body ← g.statement
  node .whileStatement start [test, body]

/-- A loop that tests last. -/
def doStatement (g : Grammar) : Reader Node := do
  let start ← startByte
  word "do"
  let body ← g.statement
  word "while"
  let test ← condition g
  let _ ← markIf ";"
  node .doStatement start [body, test]

/-- A statement that extends the scope. -/
def withStatement (g : Grammar) : Reader Node := do
  let start ← startByte
  word "with"
  let subject ← condition g
  let body ← g.statement
  node .withStatement start [subject, body]

/-- A statement that leaves a function with a value, or throws one. -/
def valueStatement (g : Grammar) (keyword : String) (kind : Kind) : Reader Node := do
  let start ← startByte
  word keyword
  let value ← if ← atStatementEnd then pure [] else pure [← g.expression {}]
  semicolon
  node kind start value

/-- A jump to a label or out of a loop. -/
def jumpStatement : Reader Node := do
  let start ← startByte
  let _ ← take
  if !(← atStatementEnd) then
    let _ ← anyWord .identifier
  semicolon
  node .jumpStatement start []

/-- A function or a class with the word `async` or `abstract` before it. -/
def prefixedDeclaration (g : Grammar) : Reader Node := do
  let start ← startByte
  let lexeme ← take
  let next ← peek
  require (!next.broken)
  match lexeme.token with
  | .word "async" => functionFrom g start true
  | .word "abstract" =>
    require g.language.hasTypes
    g.classFrom start [] .classDeclaration
  | _ => failure

/-- A statement with a label. -/
def labeledStatement (g : Grammar) : Reader Node := do
  let start ← startByte
  let _ ← name .identifier
  mark ":"
  let body ← g.statement
  node .labeledStatement start [body]

/-- An expression as a statement. -/
def expressionStatement (g : Grammar) : Reader Node := do
  let start ← startByte
  let value ← g.expression {}
  semicolon
  node .expressionStatement start [value]

/-!
### Declarations of types
-/

/-- An interface. -/
def interfaceDeclaration (g : Grammar) : Reader Node := do
  let start ← startByte
  word "interface"
  require (!(← peek).broken)
  let name ← name .identifier
  let generic ← typeParametersIf g
  let bases ← if ← wordIf "extends" then typeList g else pure []
  let body ← objectType g
  node .interfaceDeclaration start (name :: generic ++ bases ++ [body])

/-- A name for a type. -/
def typeAliasDeclaration (g : Grammar) : Reader Node := do
  let start ← startByte
  word "type"
  require (!(← peek).broken)
  let name ← anyWord .identifier
  let generic ← typeParametersIf g
  mark "="
  let type ← g.type
  semicolon
  node .typeAliasDeclaration start (name :: generic ++ [type])

/-- A member of an enumeration. -/
def enumMember (g : Grammar) : Reader Node := do
  let start ← startByte
  let name ← memberName g
  let value ← if ← markIf "=" then pure [← g.assignment {}] else pure []
  node .enumMember start (name :: value)

/-- An enumeration. -/
def enumDeclaration (g : Grammar) : Reader Node := do
  let start ← startByte
  let _ ← wordIf "const"
  word "enum"
  let name ← anyWord .identifier
  mark "\x7b"
  let members ← listUntil "\x7d" (enumMember g)
  node .enumDeclaration start (name :: members)

/-- A namespace, or a module in the old sense. -/
def internalModule (g : Grammar) : Reader Node := do
  let start ← startByte
  let keyword ← take
  require (keyword.token == .word "namespace" || keyword.token == .word "module")
  let next ← peek
  require (!next.broken)
  let name ← match next.token with
    | .quote _ => do pure [← stringLiteral]
    | _ => separated "." (name .identifier)
  let body ← do
    if ← nextIsMark "\x7b" then pure [← g.block]
    else
      semicolon
      pure []
  node .internalModule start (name ++ body)

/-- A declaration of something that is made elsewhere. -/
def ambientDeclaration (g : Grammar) : Reader Node := do
  let start ← startByte
  word "declare"
  let next ← peek
  require (!next.broken)
  match next.token with
  | .word "global" =>
    word "global"
    node .ambientDeclaration start [← g.block]
  | .word spelling =>
    require (["const", "let", "var", "function", "async", "class", "abstract", "enum", "namespace",
      "module", "interface", "type", "import", "using", "export"].contains spelling)
    node .ambientDeclaration start [← g.statement]
  | _ => failure

/-- A declaration that only languages with types have. -/
def typedDeclaration (g : Grammar) : Reader Node := do
  require g.language.hasTypes
  match (← peek).token with
  | .word "interface" => interfaceDeclaration g
  | .word "type" => typeAliasDeclaration g
  | .word "enum" => enumDeclaration g
  | .word "const" => enumDeclaration g
  | .word "namespace" => internalModule g
  | .word "module" => internalModule g
  | .word "declare" => ambientDeclaration g
  | _ => failure

/-!
### Statements
-/

/-- A class declaration with its decorators. -/
def classStatement (g : Grammar) : Reader Node := do
  let start ← startByte
  let decorations ← decorators g
  if g.language.hasTypes && (← nextIsWord "abstract") then
    word "abstract"
  g.classFrom start decorations .classDeclaration

/-- A statement or a declaration that neither imports nor exports. -/
def simpleStatement (g : Grammar) : Reader Node := do
  let start ← startByte
  let plain := labeledStatement g <|> expressionStatement g
  match (← peek).token with
  | .mark "\x7b" => blockRule g
  | .mark ";" =>
    mark ";"
    node .emptyStatement start []
  | .mark "@" => classStatement g
  | .word "var" => declarationStatement g
  | .word "let" => declarationStatement g <|> plain
  | .word "const" => declarationStatement g <|> typedDeclaration g
  | .word "using" => declarationStatement g <|> plain
  | .word "await" => declarationStatement g <|> plain
  | .word "function" => functionFrom g start true
  | .word "async" => prefixedDeclaration g <|> plain
  | .word "abstract" => prefixedDeclaration g <|> plain
  | .word "class" => classStatement g
  | .word "if" => ifStatement g
  | .word "for" => forStatement g
  | .word "while" => whileStatement g
  | .word "do" => doStatement g
  | .word "switch" => switchStatement g
  | .word "try" => tryStatement g
  | .word "with" => withStatement g
  | .word "return" => valueStatement g "return" .returnStatement
  | .word "throw" => valueStatement g "throw" .throwStatement
  | .word "break" => jumpStatement
  | .word "continue" => jumpStatement
  | .word "debugger" => jumpStatement
  | .word _ => typedDeclaration g <|> plain
  | _ => expressionStatement g

end ModuleAlias.Script
