/-
Module: ModuleAlias.Script.FunctionRules
Purpose: Functions, methods and classes.
Imports: ModuleAlias.Script.PatternRules
Main exports: Script.functionFrom, Script.methodTail, Script.classFromRule
-/
import ModuleAlias.Script.PatternRules

namespace ModuleAlias.Script

open Reader

/-- The kind of a function by its place and by whether it generates. -/
def functionKind (declares generates : Bool) : Kind :=
  match declares, generates with
  | true, true => .generatorDeclaration
  | true, false => .functionDeclaration
  | false, true => .generatorExpression
  | false, false => .functionExpression

/-- A function from its keyword on, which starts at a byte. A declaration without a body is the
signature of a function. -/
def functionFrom (g : Grammar) (start : Nat) (declares : Bool) : Reader Node := do
  word "function"
  let generates ← markIf "*"
  let name ← if ← nextIsMark "(" then pure [] else
    if ← nextIsRaw ['<'] then pure [] else pure [← anyWord .identifier]
  let generic ← typeParametersIf g
  let parameters ← g.parameters
  let result ← resultTypeIf g
  let head := name ++ generic ++ parameters :: result
  if g.language.hasTypes && declares && !(← nextIsMark "\x7b") then
    semicolon
    node .functionSignature start head
  else
    let body ← g.block
    node (functionKind declares generates) start (head ++ [body])

/-- What follows the name of a method, which starts at a byte. In a class a method without a body is
a signature. -/
def methodTail (g : Grammar) (start : Nat) (before : List Node) (inClass : Bool) :
    Reader Node := do
  let generic ← typeParametersIf g
  let parameters ← g.parameters
  let result ← resultTypeIf g
  let head := before ++ generic ++ parameters :: result
  if g.language.hasTypes && inClass && !(← nextIsMark "\x7b") then
    semicolon
    node .classMember start head
  else
    let body ← g.block
    node .methodDefinition start (head ++ [body])

/-!
### Classes
-/

/-- The words that modify a member of a class. -/
def memberModifiers : List String :=
  ["static", "public", "private", "protected", "abstract", "override", "readonly", "declare",
    "accessor", "async", "get", "set"]

/-- Whether the next word modifies the member that follows it, and is not the member's own name. -/
def nextIsMemberModifier : Reader Bool := do
  match (← peek).token with
  | .word spelling =>
    if memberModifiers.contains spelling then
      match (← peekSecond).token with
      | .word _ => return true
      | .quote _ => return true
      | .number => return true
      | .privateName => return true
      | .mark "[" => return true
      | .mark "*" => return true
      | .mark "\x7b" => return spelling == "static"
      | _ => return false
    else return false
  | _ => return false

/-- An index signature of a class. -/
def indexSignature (g : Grammar) (start : Nat) : Reader Node := do
  require g.language.hasTypes
  mark "["
  let name ← anyWord .identifier
  mark ":"
  let keys ← g.type
  mark "]"
  let type ← typeMark g
  semicolon
  node .classMember start [name, keys, type]

/-- A field or a method of a class after its modifiers. -/
def namedMember (g : Grammar) (start : Nat) (before : List Node) : Reader Node := do
  let _ ← markIf "*"
  let name ← memberName g
  let before := before ++ [name]
  if g.language.hasTypes then
    if ← nextIsMark "?" then
      mark "?"
    else if ← nextIsMark "!" then
      mark "!"
  if (← nextIsMark "(") || (← nextIsRaw ['<']) then
    methodTail g start before true
  else
    let type ← typeMarkIf g
    let given ← if ← markIf "=" then pure [(← g.assignment {}).withPart .value] else pure []
    semicolon
    node .classMember start (before ++ type ++ given)

/-- A member of a class. -/
def classMember (g : Grammar) : Reader (List Node) := do
  if ← markIf ";" then
    return []
  let start ← startByte
  let decorations ← decorators g
  let modifiers ← many do
    require (← nextIsMemberModifier)
    take
  let isStatic := modifiers.any fun lexeme => lexeme.token == .word "static"
  if isStatic && (← nextIsMark "\x7b") then
    let body ← g.block
    return [← node .classMember start (decorations ++ [body])]
  let member ← indexSignature g start <|> namedMember g start decorations
  return [member]

/-- The body of a class. -/
def classBody (g : Grammar) : Reader Node := do
  let start ← startByte
  mark "\x7b"
  let members ← many (classMember g)
  mark "\x7d"
  node .classBody start members.flatten

/-- The types that a class implements, or an interface extends. -/
def typeList (g : Grammar) : Reader (List Node) := separated "," g.type

/-- What a class extends and implements. -/
def classHeritage (g : Grammar) : Reader (List Node) := do
  let start ← startByte
  let extended ← do
    if ← wordIf "extends" then
      let parent ← g.operand {}
      if g.language.hasTypes && (← nextIsRaw ['<']) then
        pure [parent, ← typeArguments g]
      else pure [parent]
    else pure []
  let implemented ← do
    if g.language.hasTypes then
      if ← wordIf "implements" then typeList g else pure []
    else pure []
  let parts := extended ++ implemented
  if parts.isEmpty then
    return []
  return [← node .classHeritage start parts]

/-- A class from its keyword on, which starts at a byte, after its decorators. -/
def classFromRule (g : Grammar) (start : Nat) (before : List Node) (kind : Kind) :
    Reader Node := do
  word "class"
  let isNamed := match (← peek).token with
    | .word spelling => isName spelling && spelling != "implements"
    | _ => false
  let name ← if isNamed then pure [← anyWord .identifier] else pure []
  let generic ← typeParametersIf g
  let heritage ← classHeritage g
  let body ← classBody g
  node kind start (before ++ name ++ generic ++ heritage ++ [body])

end ModuleAlias.Script
