/-
Module: ModuleAlias.Script.PatternRules
Purpose: Binding patterns, the parameters of functions, and decorators.
Imports: ModuleAlias.Script.TypeRules
Main exports: Script.patternRule, Script.patternElement, Script.parametersRule, Script.decorators
-/
import ModuleAlias.Script.TypeRules

namespace ModuleAlias.Script

open Reader

/-- A pattern that may have a default value. -/
def patternElement (g : Grammar) : Reader Node := do
  let start ← startByte
  let target ← g.pattern
  if ← markIf "=" then
    let given ← g.assignment {}
    node .assignmentPattern start [target.withPart .left, given.withPart .value]
  else return target

/-- The rest of a list or an object, as a pattern. -/
def restPattern (g : Grammar) : Reader Node := do
  let start ← startByte
  mark "..."
  node .restPattern start [← g.pattern]

/-- A property of an object pattern. -/
def patternProperty (g : Grammar) : Reader Node := do
  let start ← startByte
  let keyed : Reader Node := do
    let key ← memberName g
    mark ":"
    let target ← patternElement g
    node .pairPattern start [key, target.withPart .value]
  let shorthand : Reader Node := do
    let target ← name .shorthandIdentifierPattern
    if ← markIf "=" then
      let given ← g.assignment {}
      node .objectAssignmentPattern start [target.withPart .left, given.withPart .value]
    else return target
  if ← nextIsMark "..." then restPattern g
  else if (← peekSecond).token == .mark ":" then keyed
  else shorthand <|> keyed

/-- An element of a list pattern; nothing where the element is left out. -/
def listElement (g : Grammar) : Reader (List Node) := do
  if ← nextIsMark "," then
    return []
  if ← nextIsMark "..." then
    return [← restPattern g]
  return [← patternElement g]

/-- A binding pattern: a name, or the parts of an object or of a list. -/
def patternRule (g : Grammar) : Reader Node := do
  let start ← startByte
  if ← nextIsMark "\x7b" then
    mark "\x7b"
    let properties ← listUntil "\x7d" (patternProperty g)
    node .objectPattern start properties
  else if ← nextIsMark "[" then
    mark "["
    let elements ← many do
      if ← markIf "," then
        return []
      listElement g
    mark "]"
    node .arrayPattern start elements.flatten
  else
    name .identifier

/-!
### Decorators
-/

/-- A call in a decorator. -/
def callArguments (g : Grammar) : Reader Node := do
  let start ← startByte
  mark "("
  let values ← listUntil ")" do
    let begin ← startByte
    if ← markIf "..." then
      node .spreadElement begin [← g.assignment {}]
    else g.assignment {}
  return (← node .arguments start values).withPart .arguments

/-- The name that a decorator applies, with members, type arguments and calls. -/
def decoratorTail (g : Grammar) (start : Nat) : Nat → Node → Reader Node
  | 0, subject => pure subject
  | fuel + 1, subject => do
    let lexeme ← peek
    match lexeme.token with
    | .mark "." =>
      mark "."
      let _ ← anyWord .propertyIdentifier
      decoratorTail g start fuel (← node .memberExpression start [subject])
    | .mark "(" =>
      let arguments ← callArguments g
      decoratorTail g start fuel
        (← node .callExpression start [subject.withPart .callee, arguments])
    | _ =>
      if g.language.hasTypes && (← nextIsRaw ['<']) then
        let generic : Reader (Node × Node) := do
          let types ← typeArguments g
          return (types, ← callArguments g)
        match ← attempt generic with
        | some (types, arguments) =>
          decoratorTail g start fuel
            (← node .callExpression start [subject.withPart .callee, types, arguments])
        | none => return subject
      else return subject

/-- A decorator. -/
def decorator (g : Grammar) : Reader Node := do
  let start ← startByte
  mark "@"
  let inner ← startByte
  let subject ← do
    if ← nextIsMark "(" then
      mark "("
      let value ← g.expression {}
      mark ")"
      node .parenthesizedExpression inner [value]
    else anyWord .identifier
  let fuel := (← get).rest.length
  node .decorator start [← decoratorTail g inner fuel subject]

/-- Decorators one after another. -/
def decorators (g : Grammar) : Reader (List Node) := many (decorator g)

/-!
### Parameters
-/

/-- The words that make a parameter of a constructor a property. -/
def parameterModifiers : List String :=
  ["public", "private", "protected", "readonly", "override", "static", "accessor"]

/-- Whether the next word modifies the parameter that follows it. -/
def nextIsParameterModifier (g : Grammar) : Reader Bool := do
  match (← peek).token with
  | .word spelling =>
    if g.language.hasTypes && parameterModifiers.contains spelling then
      match (← peekSecond).token with
      | .word _ => return true
      | .mark "[" => return true
      | .mark "\x7b" => return true
      | _ => return false
    else return false
  | _ => return false

/-- A parameter of a function. -/
def parameter (g : Grammar) : Reader Node := do
  let start ← startByte
  let decorations ← decorators g
  let _ ← many do
    require (← nextIsParameterModifier g)
    take
  let inner ← startByte
  let isRest ← markIf "..."
  let target ←
    if g.language.hasTypes && (← nextIsWord "this") then anyWord .identifier else g.pattern
  let target ← if isRest then node .restPattern inner [target] else pure target
  if g.language.hasTypes then
    let _ ← markIf "?"
  let type ← typeMarkIf g
  let given ← if ← markIf "=" then pure [(← g.assignment {}).withPart .value] else pure []
  if decorations.isEmpty && type.isEmpty && given.isEmpty then
    return target
  node .assignmentPattern start (decorations ++ target.withPart .left :: (type ++ given))

/-- The parameters of a function. -/
def parametersRule (g : Grammar) : Reader Node := do
  let start ← startByte
  mark "("
  let parameters ← listUntil ")" (parameter g)
  node .formalParameters start parameters

end ModuleAlias.Script
