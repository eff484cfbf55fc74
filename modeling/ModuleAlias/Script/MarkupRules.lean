/-
Module: ModuleAlias.Script.MarkupRules
Purpose: Markup in scripts: elements with attributes and children, and fragments. Text in markup is
  no code, so quotes, slashes and comments in it mean nothing.
Imports: ModuleAlias.Script.ExpressionRules
Main exports: Script.markupRule
-/
import ModuleAlias.Script.ExpressionRules

namespace ModuleAlias.Script

open Reader

/-- Whether a character can be part of the name of an element or an attribute. -/
def isMarkupNameChar (c : Char) : Bool := isWordChar c || c == '-' || c == ':' || c == '.'

/-- The name of an element or an attribute. -/
def markupName : Reader Unit := do
  let start := (← peek).start
  let length := (start.rest.takeWhile isMarkupNameChar).length
  require (0 < length)
  goTo (start.advance length)

/-- An expression in braces, which may be empty or a spread. -/
def markupExpression (g : Grammar) : Reader Node := do
  let start ← startByte
  mark "\x7b"
  let inner ← do
    if ← nextIsMark "\x7d" then pure []
    else
      let _ ← markIf "..."
      pure [← g.expression {}]
  mark "\x7d"
  node .markupExpression start inner

/-- A quoted value of an attribute; it ends at the next quote of its kind. -/
def markupString : Reader Node := do
  let lexeme ← peek
  match lexeme.token with
  | .quote quote =>
    let length := (lexeme.after.rest.takeWhile (· != quote)).length
    require (length < lexeme.after.rest.length)
    goTo (lexeme.after.advance (length + 1))
    node .string lexeme.start.offset []
  | _ => failure

/-- An attribute of an element. -/
def markupAttribute (g : Grammar) : Reader Node := do
  if ← nextIsMark "\x7b" then markupExpression g
  else
    let start ← startByte
    markupName
    if ← markIf "=" then
      let value ← match (← peek).token with
        | .quote _ => markupString
        | .mark "\x7b" => markupExpression g
        | _ => g.markup
      node .markupAttribute start [value]
    else node .markupAttribute start []

/-- A child of an element: an expression, an element, or nothing for a stretch of text. -/
def markupChild (g : Grammar) : Reader (List Node) := do
  let start ← get
  match start.rest with
  | '{' :: _ => return [← markupExpression g]
  | '<' :: more =>
    match more with
    | '/' :: _ => failure
    | _ => return [← g.markup]
  | rest =>
    let length := (rest.takeWhile fun c => c != '{' && c != '<').length
    require (0 < length)
    goTo (start.advance length)
    return []

/-- An element or a fragment. -/
def markupRule (g : Grammar) : Reader Node := do
  let start ← startByte
  raw ['<']
  let isFragment ← nextIsRaw ['>']
  let head ← do
    if isFragment then pure []
    else
      markupName
      let types ←
        if g.language.hasTypes && (← nextIsRaw ['<']) then pure [← typeArguments g] else pure []
      let attributes ← many (markupAttribute g)
      pure (types ++ attributes)
  if ← rawIf ['/'] then
    raw ['>']
    node .markupElement start head
  else
    raw ['>']
    let children ← many (markupChild g)
    raw ['<']
    raw ['/']
    if !isFragment then
      markupName
    raw ['>']
    node .markupElement start (head ++ children.flatten)

end ModuleAlias.Script
