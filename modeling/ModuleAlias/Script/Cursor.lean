/-
Module: ModuleAlias.Script.Cursor
Purpose: A place in the source of a script, and the lexemes found from there. A lexeme is looked up
  each time it is needed, because what a slash or an angle bracket begins depends on the grammar
  rule that asks; blanks and comments before it are passed over, and whether they held a line break
  is kept.
Imports: none
Main exports: Script.Cursor, Script.Cursor.skipTrivia, Script.Token, Script.Lexeme,
  Script.Cursor.lexeme
-/

namespace ModuleAlias.Script

/-- A place in a source: the characters that follow, and the number of bytes before. -/
structure Cursor where
  rest : List Char
  offset : Nat
deriving Repr

/-- Whether a character ends a line. -/
def isLineBreak (c : Char) : Bool :=
  c == '\n' || c == '\r' || c == '\u2028' || c == '\u2029'

/-- Whether a character is blank: white space, and the invisible characters that scripts treat
alike. -/
def isBlank (c : Char) : Bool :=
  c == ' ' || (9 ≤ c.toNat && c.toNat ≤ 13) ||
    [0x85, 0xa0, 0x1680, 0x200b, 0x2028, 0x2029, 0x202f, 0x205f, 0x2060, 0x3000, 0xfeff].contains
      c.toNat ||
    (0x2000 ≤ c.toNat && c.toNat ≤ 0x200a)

/-- The ASCII characters that cannot be part of a word. -/
def isPunctuation (c : Char) : Bool :=
  ":;`\"'@#.,|^&<=>+-*/\\%?!~()[]\x7b\x7d".toList.contains c

/-- Whether a character can be part of a word. -/
def isWordChar (c : Char) : Bool :=
  0x20 ≤ c.toNat && !isBlank c && !isPunctuation c

namespace Cursor

/-- The beginning of a source. -/
def ofChars (chars : List Char) : Cursor := { rest := chars, offset := 0 }

/-- The place after a number of characters. -/
def advance : Nat → Cursor → Cursor
  | count + 1, ⟨c :: rest, offset⟩ => advance count ⟨rest, offset + c.utf8Size⟩
  | _, cursor => cursor

/-- What blanks and comments consist of at a place. -/
inductive TriviaMode where
  | blank
  | line
  | block

/-- Passes over blanks and comments. Tells whether there was a line break among them. -/
def skipTriviaFrom : TriviaMode → Bool → List Char → Nat → Cursor × Bool
  | _, broken, [], offset => (⟨[], offset⟩, broken)
  | .line, broken, c :: rest, offset =>
    if isLineBreak c then skipTriviaFrom .blank true rest (offset + c.utf8Size)
    else skipTriviaFrom .line broken rest (offset + c.utf8Size)
  | .block, broken, '*' :: '/' :: rest, offset => skipTriviaFrom .blank broken rest (offset + 2)
  | .block, broken, c :: rest, offset =>
    skipTriviaFrom .block (broken || isLineBreak c) rest (offset + c.utf8Size)
  | .blank, broken, '/' :: '/' :: rest, offset => skipTriviaFrom .line broken rest (offset + 2)
  | .blank, broken, '/' :: '*' :: rest, offset => skipTriviaFrom .block broken rest (offset + 2)
  | .blank, broken, c :: rest, offset =>
    if isBlank c then
      skipTriviaFrom .blank (broken || isLineBreak c) rest (offset + c.utf8Size)
    else (⟨c :: rest, offset⟩, broken)

/-- The place after blanks and comments, and whether there was a line break among them. -/
def skipTrivia (cursor : Cursor) : Cursor × Bool :=
  skipTriviaFrom .blank false cursor.rest cursor.offset

end Cursor

/-- What a lexeme is. -/
inductive Token where
  /-- An identifier or a keyword, as it is spelled. -/
  | word (spelling : String)
  /-- A private name. -/
  | privateName
  /-- A punctuator. -/
  | mark (spelling : String)
  | number
  /-- The opening quote of a string. -/
  | quote (quote : Char)
  /-- The opening quote of a template. -/
  | backtick
  /-- The end of the source. -/
  | finish
  /-- A character that begins nothing. -/
  | stray
deriving DecidableEq, Repr

/-- A token with the places before and after it, and whether a line break precedes it. -/
structure Lexeme where
  token : Token
  start : Cursor
  after : Cursor
  broken : Bool

/-- The punctuators, longer ones before their beginnings. -/
def marks : List (List Char) :=
  [">>>=", "...", "===", "!==", "**=", "<<=", ">>=", ">>>", "&&=", "||=", "??=", "=>", "==", "!=",
    "<=", ">=", "&&", "||", "??", "?.", "++", "--", "+=", "-=", "*=", "/=", "%=", "&=", "|=",
    "^=", "<<", ">>", "**", "\x7b", "\x7d", "(", ")", "[", "]", ";", ",", "<", ">", "+", "-", "*",
    "/", "%", "&", "|", "^", "!", "~", "?", ":", "=", ".", "@"].map String.toList

/-- Whether a text begins with a digit. -/
def beginsWithDigit : List Char → Bool
  | c :: _ => c.isDigit
  | [] => false

/-- The punctuator at the beginning of a text. A question mark before a fraction is not an optional
chain. -/
def markAt? (rest : List Char) : Option (List Char) :=
  match rest with
  | '?' :: '.' :: more => if beginsWithDigit more then some ['?'] else some ['?', '.']
  | rest => marks.find? fun mark => mark.isPrefixOf rest

/-- The word at the beginning of a text. `braced` tells that an escape in braces is open. -/
def wordAt (braced : Bool) : List Char → List Char
  | [] => []
  | '\\' :: 'u' :: '{' :: rest =>
    if braced then [] else '\\' :: 'u' :: '{' :: wordAt true rest
  | '\\' :: 'u' :: rest => if braced then [] else '\\' :: 'u' :: wordAt false rest
  | c :: rest =>
    if braced then c :: wordAt (c != '}') rest
    else if isWordChar c then c :: wordAt false rest
    else []

/-- Digits and the underscores between them. -/
def digitRun (rest : List Char) : Nat := (rest.takeWhile fun c => c.isDigit || c == '_').length

/-- The length of an exponent part, or zero. -/
def exponentLength : List Char → Nat
  | mark :: sign :: rest =>
    if mark == 'e' || mark == 'E' then
      if sign == '+' || sign == '-' then 2 + digitRun rest
      else 1 + digitRun (sign :: rest)
    else 0
  | _ => 0

/-- The length of the number at the beginning of a text. -/
def numberLength (rest : List Char) : Nat :=
  match rest with
  | '0' :: mark :: more =>
    if ['x', 'X', 'o', 'O', 'b', 'B'].contains mark then
      2 + (more.takeWhile isWordChar).length
    else decimalLength rest
  | rest => decimalLength rest
where
  /-- The length of a decimal number: digits, a fraction, an exponent, a mark for big integers. -/
  decimalLength (rest : List Char) : Nat :=
    let whole := digitRun rest
    let fraction := match rest.drop whole with
      | '.' :: more => 1 + digitRun more
      | _ => 0
    let exponent := exponentLength (rest.drop (whole + fraction))
    let big := match rest.drop (whole + fraction + exponent) with
      | 'n' :: _ => 1
      | _ => 0
    whole + fraction + exponent + big

namespace Cursor

/-- The token at a place and the number of its characters. -/
def tokenAt (rest : List Char) : Token × Nat :=
  match rest with
  | [] => (.finish, 0)
  | '"' :: _ => (.quote '"', 1)
  | '\'' :: _ => (.quote '\'', 1)
  | '`' :: _ => (.backtick, 1)
  | '#' :: more => (.privateName, 1 + (wordAt false more).length)
  | c :: more =>
    if c.isDigit || (c == '.' && beginsWithDigit more) then (.number, numberLength (c :: more))
    else
      match wordAt false (c :: more) with
      | [] =>
        match markAt? (c :: more) with
        | some mark => (.mark (String.ofList mark), mark.length)
        | none => (.stray, 1)
      | word => (.word (String.ofList word), word.length)

/-- The next lexeme. -/
def lexeme (cursor : Cursor) : Lexeme :=
  let (start, broken) := cursor.skipTrivia
  let (token, length) := tokenAt start.rest
  { token, start, after := start.advance length, broken }

end Cursor

end ModuleAlias.Script
