/-
Module: ModuleAlias.Script.Atom
Purpose: Literals of scripts: strings, whose children are their pieces, templates with their
  substitutions, and regular expressions.
Imports: ModuleAlias.Script.Reader
Main exports: Script.stringLiteral, Script.templateLiteral, Script.regexLiteral
-/
import ModuleAlias.Script.Reader

namespace ModuleAlias.Script

open Reader

/-- The number of bytes of a text in UTF-8. -/
def byteLength (chars : List Char) : Nat :=
  chars.foldr (fun c length => c.utf8Size + length) 0

/-- The node of one piece of a literal that starts at a byte. -/
def pieceNode (start : Nat) : Literal.Piece → Node
  | .plain text => .mk .stringFragment .member start (start + byteLength text) []
  | .escape text => .mk .escapeSequence .member start (start + byteLength text) []

/-- The nodes of pieces that follow one another from a byte on. -/
def pieceNodes : Nat → List Literal.Piece → List Node
  | _, [] => []
  | start, piece :: pieces =>
    let node := pieceNode start piece
    node :: pieceNodes node.stop pieces

/-- A string literal. -/
def stringLiteral : Reader Node := do
  let lexeme ← peek
  match lexeme.token with
  | .quote quote =>
    match Literal.readPieces? quote lexeme.after.rest with
    | none => failure
    | some (pieces, rest) =>
      let children := pieceNodes lexeme.after.offset pieces
      let stop := (children.getLast?.map Node.stop).getD lexeme.after.offset + 1
      goTo ⟨rest, stop⟩
      return .mk .string .member lexeme.start.offset stop children
  | _ => failure

/-- Whether a template goes on as plain text with a character. -/
def isTemplateChar : List Char → Bool
  | [] => false
  | '`' :: _ => false
  | '\\' :: _ => false
  | '$' :: '{' :: _ => false
  | _ => true

/-- The number of characters of plain text at the beginning of what is left of a template. -/
def templateTextLength : List Char → Nat
  | [] => 0
  | c :: rest => if isTemplateChar (c :: rest) then templateTextLength rest + 1 else 0

/-- One part of a template: plain text, an escape, or a substitution, which `inner` reads. -/
def templatePart (inner : Reader Node) : Reader Node := do
  let start ← get
  match start.rest with
  | '$' :: '{' :: _ =>
    goTo (start.advance 2)
    let value ← inner
    mark "\x7d"
    node .templateSubstitution start.offset [value]
  | '\\' :: more =>
    goTo (start.advance (1 + (Literal.escapeLength? more).getD 1))
    node .escapeSequence start.offset []
  | rest =>
    let length := templateTextLength rest
    require (0 < length)
    goTo (start.advance length)
    node .stringFragment start.offset []

/-- A template. -/
def templateLiteral (inner : Reader Node) : Reader Node := do
  let lexeme ← take
  require (lexeme.token == .backtick)
  let parts ← many (templatePart inner)
  let final ← get
  match final.rest with
  | '`' :: _ =>
    goTo (final.advance 1)
    node .templateString lexeme.start.offset parts
  | _ => failure

/-- The number of characters of a regular expression after its opening slash, with the closing one.
`inClass` tells that a bracket is open, in which a slash closes nothing. -/
def regexLength? (inClass : Bool) : List Char → Option Nat
  | [] => none
  | '\\' :: c :: rest => if isLineBreak c then none else (regexLength? inClass rest).map (· + 2)
  | c :: rest =>
    if isLineBreak c then none
    else if c = '[' then (regexLength? true rest).map (· + 1)
    else if c = ']' then (regexLength? false rest).map (· + 1)
    else if c = '/' && !inClass then some 1
    else (regexLength? inClass rest).map (· + 1)

/-- A regular expression with its flags. -/
def regexLiteral : Reader Node := do
  let start := (← peek).start
  match start.rest with
  | '/' :: more =>
    match regexLength? false more with
    | none => failure
    | some length =>
      let flags := (more.drop length).takeWhile isWordChar
      goTo (start.advance (1 + length + flags.length))
      node .regex start.offset []
  | _ => failure

end ModuleAlias.Script
