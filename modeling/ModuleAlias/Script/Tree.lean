/-
Module: ModuleAlias.Script.Tree
Purpose: The syntax tree of a whole script. The rules of the grammar are tied together here: each
  use of a rule inside another one takes one unit of a depth that the length of the source bounds.
  What cannot be read is passed over, and the tree tells that it was.
Imports: ModuleAlias.Script.ExportRules, ModuleAlias.Script.Extent
Main exports: Script.Grammar.ofDepth, Script.Tree.ofSource
-/
import ModuleAlias.Script.ExportRules
import ModuleAlias.Script.Extent

namespace ModuleAlias.Script

open Reader

/-- A comment as pages write it, from its opening or its closing mark to the end of the line. It may
stand where a statement may begin. -/
def pageComment : Reader Node := do
  let start ← startByte
  require ((← nextIsRaw ['<', '!', '-', '-']) || (← nextIsRaw ['-', '-', '>']))
  let place := (← peek).start
  let line := place.rest.takeWhile fun c => c == '\r' || !isLineBreak c
  goTo (place.advance line.length)
  node .comment start []

/-- Any statement or declaration. -/
def statementRule (g : Grammar) : Reader Node := do
  let next ← peek
  match next.token with
  | .word "import" =>
    match (← peekSecond).token with
    | .mark "(" => simpleStatement g
    | .mark "." => simpleStatement g
    | _ => importRule g
  | .word "export" => exportRule g
  | .mark "@" => exportRule g <|> simpleStatement g
  | .mark "<" => pageComment <|> simpleStatement g
  | .mark "--" => pageComment <|> simpleStatement g
  | _ => simpleStatement g

namespace Grammar

/-- The grammar of a language whose rules may use one another to a depth. -/
def ofDepth (language : Language) : Nat → Grammar
  | 0 => {
      language
      statement := failure
      expression := fun _ => failure
      assignment := fun _ => failure
      operand := fun _ => failure
      pattern := failure
      type := failure
      markup := failure
      parameters := failure
      block := failure
      classFrom := fun _ _ _ => failure }
  | depth + 1 => {
      language
      statement := fun cursor => statementRule (ofDepth language depth) cursor
      expression := fun mode cursor => expressionRule (ofDepth language depth) mode cursor
      assignment := fun mode cursor => assignmentRule (ofDepth language depth) mode cursor
      operand := fun mode cursor => operandRule (ofDepth language depth) mode cursor
      pattern := fun cursor => patternRule (ofDepth language depth) cursor
      type := fun cursor => typeRule (ofDepth language depth) cursor
      markup := fun cursor => markupRule (ofDepth language depth) cursor
      parameters := fun cursor => parametersRule (ofDepth language depth) cursor
      block := fun cursor => blockRule (ofDepth language depth) cursor
      classFrom := fun start before kind cursor =>
        classFromRule (ofDepth language depth) start before kind cursor }

end Grammar

namespace Tree

/-- Reads statements up to the end of a source. A lexeme that begins no statement is passed over. -/
def statements (g : Grammar) : Nat → Cursor → List Node × Bool
  | 0, _ => ([], true)
  | fuel + 1, cursor =>
    let lexeme := cursor.lexeme
    if lexeme.token = .finish then ([], false)
    else
      match g.statement cursor with
      | some (statement, after) =>
        if after.rest.length < cursor.rest.length then
          let (more, errors) := statements g fuel after
          (statement :: more, errors)
        else ((statements g fuel lexeme.after).1, true)
      | none => ((statements g fuel lexeme.after).1, true)

/-- The place after the line that names an interpreter, if there is one. -/
def afterInterpreter (cursor : Cursor) : Cursor :=
  match cursor.rest with
  | '#' :: '!' :: rest =>
    cursor.advance (2 + (rest.takeWhile fun c => !isLineBreak c).length)
  | _ => cursor

/-- The tree of a source of which nothing could be read. -/
def unread (source : String) : Tree source where
  root := .mk .program .member 0 source.utf8ByteSize []
  hasErrors := true
  lies := by
    have first : BetweenCharacters source 0 := String.Pos.Raw.isValid_zero
    have last : BetweenCharacters source source.utf8ByteSize := String.Pos.Raw.isValid_rawEndPos
    simp [Node.LiesOver, Node.LieOver, first, last]

/-- The tree of a source whose statements have been read. -/
def ofStatements (source : String) (statements : List Node) (hasErrors : Bool) : Tree source :=
  let root : Node := .mk .program .member 0 source.utf8ByteSize statements
  if lies : root.LiesOver source 0 source.utf8ByteSize then { root, hasErrors, lies }
  else unread source

/-- The tree of a source. -/
def ofSource : Parser := fun language source =>
  let chars := source.toList
  let start := afterInterpreter (Cursor.ofChars chars)
  let grammar := Grammar.ofDepth language (16 * (chars.length + 4))
  let (statements, hasErrors) := statements grammar (chars.length + 1) start
  ofStatements source statements hasErrors

end Tree

end ModuleAlias.Script
