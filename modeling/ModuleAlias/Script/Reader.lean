/-
Module: ModuleAlias.Script.Reader
Purpose: Readers of scripts. A reader takes a place in the source to a result and the place after
  it, or to nothing; an alternative starts again from the same place. The rules of the grammar call
  one another through a record, so that each rule is a definition of its own and nesting is bounded
  in one place, where the record is tied.
Imports: ModuleAlias.Script.Cursor, ModuleAlias.Script.Language, ModuleAlias.Script.Node,
  ModuleAlias.Literal.Escape
Main exports: Script.Reader, Script.Grammar, Script.Mode, and the small readers of lexemes
-/
import ModuleAlias.Script.Cursor
import ModuleAlias.Script.Language
import ModuleAlias.Script.Node
import ModuleAlias.Literal.Escape

namespace ModuleAlias.Script

/-- A reader of a part of a source. -/
abbrev Reader := StateT Cursor Option

/-- What an expression may hold: the operator `in`, and arrow functions with a result type. -/
structure Mode where
  allowsIn : Bool := true
  allowsArrowTypes : Bool := true

/-- The rules that others reach through nesting. -/
structure Grammar where
  language : Language
  statement : Reader Node
  expression : Mode → Reader Node
  assignment : Mode → Reader Node
  operand : Mode → Reader Node
  pattern : Reader Node
  type : Reader Node
  markup : Reader Node
  parameters : Reader Node
  block : Reader Node
  classFrom : Nat → List Node → Kind → Reader Node

namespace Reader

/-- The next lexeme, which stays where it is. -/
def peek : Reader Lexeme := fun cursor => some (cursor.lexeme, cursor)

/-- The next token. -/
def peekToken : Reader Token := return (← peek).token

/-- The token after the next one. -/
def peekSecond : Reader Lexeme := return (← peek).after.lexeme

/-- The next lexeme. -/
def take : Reader Lexeme := fun cursor =>
  let lexeme := cursor.lexeme
  some (lexeme, lexeme.after)

/-- Goes to a place. -/
def goTo (cursor : Cursor) : Reader Unit := set cursor

/-- The byte where the next lexeme starts. -/
def startByte : Reader Nat := return (← peek).start.offset

/-- The byte where the last lexeme ended. -/
def stopByte : Reader Nat := return (← get).offset

/-- A node from a byte to the end of the last lexeme. -/
def node (kind : Kind) (start : Nat) (children : List Node) : Reader Node := do
  return .mk kind .member start (← stopByte) children

/-- Fails unless a condition holds. -/
def require (condition : Bool) : Reader Unit := if condition then pure () else failure

/-- A reading that may be missing. -/
def attempt {α : Type} (reader : Reader α) : Reader (Option α) :=
  (some <$> reader) <|> pure none

/-- Whether the next token is a punctuator. -/
def nextIsMark (spelling : String) : Reader Bool := return (← peekToken) == .mark spelling

/-- Whether the next token is a word. -/
def nextIsWord (spelling : String) : Reader Bool := return (← peekToken) == .word spelling

/-- A punctuator. -/
def mark (spelling : String) : Reader Unit := do
  require ((← take).token == .mark spelling)

/-- A certain word. -/
def word (spelling : String) : Reader Unit := do
  require ((← take).token == .word spelling)

/-- A punctuator if it is there. -/
def markIf (spelling : String) : Reader Bool := do
  if ← nextIsMark spelling then
    mark spelling
    return true
  return false

/-- A word if it is there. -/
def wordIf (spelling : String) : Reader Bool := do
  if ← nextIsWord spelling then
    word spelling
    return true
  return false

/-- Whether the next characters after blanks and comments are the given ones. -/
def nextIsRaw (chars : List Char) : Reader Bool := do
  return chars.isPrefixOf (← peek).start.rest

/-- The given characters, even where they begin a longer punctuator. -/
def raw (chars : List Char) : Reader Unit := do
  let start := (← peek).start
  require (chars.isPrefixOf start.rest)
  goTo (start.advance chars.length)

/-- The given characters if they are there, even where they begin a longer punctuator. -/
def rawIf (chars : List Char) : Reader Bool := do
  if ← nextIsRaw chars then
    raw chars
    return true
  return false

/-- Readings one after another until one fails or gets nowhere; at most as many as the fuel. -/
def manyUpTo {α : Type} : Nat → Reader α → Reader (List α)
  | 0, _ => pure []
  | fuel + 1, reader => do
    let before ← get
    match ← attempt reader with
    | none => return []
    | some result =>
      let after ← get
      if after.rest.length < before.rest.length then
        return result :: (← manyUpTo fuel reader)
      else
        return [result]

/-- Readings one after another until one fails. -/
def many {α : Type} (reader : Reader α) : Reader (List α) := do
  manyUpTo ((← get).rest.length + 1) reader

/-- Readings with a punctuator between each two, at least one. -/
def separated {α : Type} (separator : String) (reader : Reader α) : Reader (List α) := do
  let first ← reader
  let more ← many do
    mark separator
    reader
  return first :: more

/-- Readings with commas between, up to a closing punctuator. A comma may also stand last. -/
def listUntil {α : Type} (closing : String) (reader : Reader α) : Reader (List α) := do
  if ← markIf closing then
    return []
  let first ← reader
  let more ← many do
    mark ","
    require (!(← nextIsMark closing))
    reader
  let _ ← markIf ","
  mark closing
  return first :: more

/-!
### Words
-/

/-- The words that cannot name a variable. -/
def reservedWords : List String :=
  ["break", "case", "catch", "class", "const", "continue", "debugger", "default", "delete", "do",
    "else", "enum", "export", "extends", "false", "finally", "for", "function", "if", "import",
    "in", "instanceof", "new", "null", "return", "super", "switch", "this", "throw", "true", "try",
    "typeof", "var", "void", "while", "with"]

/-- Whether a word can name a variable. -/
def isName (spelling : String) : Bool := !reservedWords.contains spelling

/-- A word of any kind as a node. -/
def anyWord (kind : Kind) : Reader Node := do
  let lexeme ← take
  match lexeme.token with
  | .word _ => return .mk kind .member lexeme.start.offset lexeme.after.offset []
  | _ => failure

/-- A word that can name a variable. -/
def name (kind : Kind) : Reader Node := do
  match (← peek).token with
  | .word spelling =>
    require (isName spelling)
    anyWord kind
  | _ => failure

/-!
### Ends of statements
-/

/-- The end of a statement: a semicolon, or a place where one may be left out. -/
def semicolon : Reader Unit := do
  let lexeme ← peek
  match lexeme.token with
  | .mark ";" => mark ";"
  | .mark "\x7d" => return
  | .finish => return
  | _ => require lexeme.broken

/-- Whether nothing of the statement follows on the line. -/
def atStatementEnd : Reader Bool := do
  let lexeme ← peek
  match lexeme.token with
  | .mark ";" => return true
  | .mark "\x7d" => return true
  | .finish => return true
  | _ => return lexeme.broken

end Reader

end ModuleAlias.Script
