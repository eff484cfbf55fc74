/-
Module: ModuleAlias.Script.ImportRules
Purpose: Import declarations. Their range matters to the byte, because a whole declaration may be
  replaced: it runs to the semicolon if one follows, and else to the end of the module's name or of
  the attributes. Whether a semicolon still follows is decided by what stands between.
Imports: ModuleAlias.Script.StatementRules
Main exports: Script.importRule, Script.leavesOutSemicolon
-/
import ModuleAlias.Script.StatementRules

namespace ModuleAlias.Script

open Reader

/-!
### The end of a declaration

Between the name and a semicolon there may be blanks and comments. A line comment, or a block
comment with a line break in it, that begins before the first line break ends the declaration;
after a line break comments no longer matter, and the declaration goes on if what follows cannot
begin a statement.
-/

/-- Whether a character ends a line for the purpose of leaving out a semicolon. -/
def breaksLine (c : Char) : Bool := c == '\n' || c == '\u2028' || c == '\u2029'

/-- What a comment after the slash that begins it turns out to be: no comment, a block comment on
one line with what follows it, or a comment that ends the declaration. -/
inductive CommentEnd where
  | noComment
  | sameLine (rest : List Char)
  | ends

/-- What follows a block comment, and whether the comment holds a line break. -/
def afterBlock (broken : Bool) : List Char → List Char × Bool
  | [] => ([], broken)
  | '*' :: '/' :: rest => (rest, broken)
  | c :: rest => afterBlock (broken || breaksLine c) rest

/-- What follows a line comment. -/
def afterLine (rest : List Char) : List Char := rest.dropWhile fun c => !breaksLine c

/-- What follows blanks and comments, or nothing where a slash begins no comment. -/
def afterTrivia? : Nat → List Char → Option (List Char)
  | 0, rest => some rest
  | fuel + 1, rest =>
    match rest.dropWhile isBlank with
    | '/' :: '/' :: more => afterTrivia? fuel (afterLine more)
    | '/' :: '*' :: more => afterTrivia? fuel (afterBlock false more).1
    | '/' :: _ => none
    | more => some more

/-- Judges comments that begin on the line of the declaration, from their first slash. -/
def commentEnd : Nat → Bool → List Char → CommentEnd
  | 0, _, _ => .noComment
  | fuel + 1, broken, rest =>
    match rest with
    | '/' :: '/' :: more => continues ((afterLine more).dropWhile isBlank) fuel broken
    | '/' :: '*' :: more =>
      let (more, broken) := afterBlock broken more
      match more with
      | '/' :: _ => commentEnd fuel broken more
      | more => if broken then ends more else .sameLine more
    | '/' :: _ => .noComment
    | more => ends more
where
  /-- The declaration ends unless a comma or an equals sign follows. -/
  ends : List Char → CommentEnd
    | ',' :: rest => .sameLine (',' :: rest)
    | '=' :: rest => .sameLine ('=' :: rest)
    | _ => .ends
  /-- Comments after a line comment. -/
  continues (rest : List Char) (fuel : Nat) (broken : Bool) : CommentEnd :=
    match rest with
    | '/' :: _ => commentEnd fuel broken rest
    | rest => ends rest

/-- Whether a character after a line break shows that the declaration goes on. -/
def goesOn : List Char → Bool
  | '+' :: rest => rest.head? != some '+'
  | '-' :: rest => rest.head? != some '-'
  | '!' :: rest => rest.head? == some '='
  | c :: _ => "`,.;*%><=[(?^|&/:".toList.contains c
  | [] => false

/-- Whether a declaration ends before what is left of the source although no semicolon is written
there. -/
def leavesOutSemicolon : Nat → List Char → Bool
  | 0, _ => true
  | fuel + 1, rest =>
    match rest with
    | [] => true
    | '}' :: _ => true
    | '/' :: _ =>
      match commentEnd fuel false rest with
      | .noComment => false
      | .ends => true
      | .sameLine more => leavesOutSemicolon fuel more
    | c :: more =>
      if breaksLine c then
        match afterTrivia? more.length more with
        | none => false
        | some following => !goesOn following
      else if isBlank c then leavesOutSemicolon fuel more
      else false

/-- The end of a declaration: its semicolon, if one belongs to it. -/
def declarationEnd : Reader Unit := do
  let cursor ← get
  if !leavesOutSemicolon (cursor.rest.length + 1) cursor.rest then
    let _ ← markIf ";"

/-!
### Clauses
-/

/-- The name of something imported: a word, or a string. -/
def importedName : Reader Node := do
  match (← peek).token with
  | .quote _ => stringLiteral
  | _ => anyWord .identifier

/-- Whether the next token ends an item of named imports. -/
def atItemEnd : Reader Bool := return (← nextIsMark ",") || (← nextIsMark "\x7d")

/-- An item of named imports after its keyword: a name, and another to call it by. -/
def renamedItem (start : Nat) : Reader Node := do
  let imported ← importedName
  if ← wordIf "as" then
    let renamed ← anyWord .identifier
    node .importSpecifier start [imported.withPart .name, renamed.withPart .localName]
  else node .importSpecifier start [imported.withPart .name]

/-- An item of named imports. With types, a keyword may say that only a type is meant. -/
def importItem (g : Grammar) : Reader Node := do
  let start ← startByte
  let plain : Reader Node := do
    let item ← renamedItem start
    require (← atItemEnd)
    return item
  let typed : Reader Node := do
    require g.language.hasTypes
    match (← take).token with
    | .word "type" => pure ()
    | .word "typeof" => pure ()
    | _ => failure
    let item ← renamedItem start
    require (← atItemEnd)
    return item
  plain <|> typed

/-- The items of named imports. -/
def namedImports (g : Grammar) : Reader Node := do
  let start ← startByte
  mark "\x7b"
  let items ← listUntil "\x7d" (importItem g)
  node .namedImports start items

/-- All of a module under one name. -/
def namespaceImport : Reader Node := do
  let start ← startByte
  mark "*"
  word "as"
  node .namespaceImport start [← anyWord .identifier]

/-- What is imported. -/
def importClause (g : Grammar) : Reader Node := do
  let start ← startByte
  let others : Reader Node := do
    if ← nextIsMark "*" then namespaceImport else namedImports g
  match (← peek).token with
  | .word _ =>
    let default ← anyWord .identifier
    let more ← if ← markIf "," then pure [← others] else pure []
    node .importClause start (default :: more)
  | _ =>
    let only ← others
    node .importClause start [only]

/-- Attributes of an imported module. -/
def importAttributes (g : Grammar) : Reader (List Node) := do
  let next ← peek
  let isKeyword := next.token == .word "with" || next.token == .word "assert"
  if isKeyword && !next.broken && next.after.lexeme.token == .mark "\x7b" then
    let start ← startByte
    let _ ← take
    let value ← objectLiteral g
    return [← node .importAttribute start [value]]
  return []

/-- A module required under a name. -/
def requireClause : Reader Node := do
  let start ← startByte
  let binder ← anyWord .identifier
  mark "="
  word "require"
  mark "("
  let source ← stringLiteral
  mark ")"
  node .importRequireClause start [binder, source.withPart .source]

/-- The parts of an import declaration after its keywords. -/
def importParts (g : Grammar) : Reader (List Node) := do
  let direct : Reader (List Node) := do
    let source ← stringLiteral
    return source.withPart .source :: (← importAttributes g)
  let required : Reader (List Node) := do
    require g.language.hasTypes
    return [← requireClause]
  let clausal : Reader (List Node) := do
    let clause ← importClause g
    word "from"
    return clause :: (← direct)
  direct <|> required <|> clausal

/-- A short name for a name in a namespace. -/
def importAlias (g : Grammar) : Reader (List Node) := do
  require g.language.hasTypes
  let binder ← anyWord .identifier
  mark "="
  let path ← separated "." (anyWord .identifier)
  require (!(← nextIsMark "("))
  return binder :: path

/-- An import declaration. -/
def importRule (g : Grammar) : Reader Node := do
  let start ← startByte
  word "import"
  let shortcut : Reader Node := do
    let parts ← importAlias g
    semicolon
    node .importAlias start parts
  let declaration (parts : Reader (List Node)) : Reader Node := do
    let parts ← parts
    declarationEnd
    node .importStatement start parts
  let typed : Reader (List Node) := do
    require g.language.hasTypes
    match (← take).token with
    | .word "type" => pure ()
    | .word "typeof" => pure ()
    | _ => failure
    importParts g
  declaration typed <|> declaration (importParts g) <|> shortcut

end ModuleAlias.Script
