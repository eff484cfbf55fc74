/-
Module: ModuleAlias.Script.ExportRules
Purpose: Export declarations.
Imports: ModuleAlias.Script.ImportRules
Main exports: Script.exportRule
-/
import ModuleAlias.Script.ImportRules

namespace ModuleAlias.Script

open Reader

/-- The list of what is exported. -/
def exportClause : Reader Node := do
  let start ← startByte
  mark "\x7b"
  let _ ← listUntil "\x7d" do
    let first ← peek
    let second := first.after.lexeme
    let typed := first.token == .word "type" && match second.token with
      | .word spelling => spelling != "as"
      | .quote _ => true
      | _ => false
    if typed then
      let _ ← take
    let exported ← importedName
    if ← wordIf "as" then
      let _ ← importedName
    return exported
  node .exportClause start []

/-- The module that something is exported from. -/
def exportSource (g : Grammar) : Reader (List Node) := do
  word "from"
  let source ← stringLiteral
  return source.withPart .source :: (← importAttributes g)

/-- Everything, or a list, that is exported, from another module or from this one. -/
def exportedNames (g : Grammar) : Reader (List Node) := do
  if ← markIf "*" then
    if ← wordIf "as" then
      let _ ← importedName
    exportSource g
  else
    let clause ← exportClause
    let source ← if ← nextIsWord "from" then exportSource g else pure []
    return clause :: source

/-- The default export. -/
def defaultExport (g : Grammar) : Reader (List Node) := do
  word "default"
  let start ← startByte
  let next ← peek
  let second := next.after.lexeme
  let value : Reader (List Node) := do
    let value ← g.assignment {}
    semicolon
    return [value.withPart .value]
  let declared (reader : Reader Node) : Reader (List Node) := do return [← reader]
  match next.token with
  | .word "function" =>
    let names := match second.token with
      | .word _ => true
      | .mark "*" => match second.after.lexeme.token with
        | .word _ => true
        | _ => false
      | _ => false
    declared (functionFrom g start names)
  | .word "async" =>
    if second.token == .word "function" && !second.broken then
      word "async"
      let third := second.after.lexeme
      let names := match third.token with
        | .word _ => true
        | .mark "*" => match third.after.lexeme.token with
          | .word _ => true
          | _ => false
        | _ => false
      declared (functionFrom g start names)
    else value
  | .word "class" => declared (g.classFrom start [] .classDeclaration)
  | .mark "@" => declared (classStatement g)
  | .word "abstract" => declared (classStatement g) <|> value
  | .word "interface" => declared (interfaceDeclaration g) <|> value
  | _ => value

/-- An export declaration after its keyword. -/
def exportParts (g : Grammar) : Reader (List Node) := do
  let named : Reader (List Node) := do
    let parts ← exportedNames g
    semicolon
    return parts
  match (← peek).token with
  | .mark "*" => named
  | .mark "\x7b" => named
  | .mark "=" =>
    mark "="
    let value ← g.expression {}
    semicolon
    return [value]
  | .word "default" => defaultExport g
  | .word "as" =>
    word "as"
    word "namespace"
    let name ← anyWord .identifier
    semicolon
    return [name]
  | .word "import" => return [← importRule g]
  | .word "type" =>
    let typed : Reader (List Node) := do
      word "type"
      named
    typed <|> (do return [← simpleStatement g])
  | _ => return [← simpleStatement g]

/-- An export declaration. -/
def exportRule (g : Grammar) : Reader Node := do
  let start ← startByte
  let decorations ← decorators g
  word "export"
  let parts ← exportParts g
  node .exportStatement start (decorations ++ parts)

end ModuleAlias.Script
