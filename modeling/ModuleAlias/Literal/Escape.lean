/-
Module: ModuleAlias.Literal.Escape
Purpose: The value of a string literal. The text between the quotes falls into pieces, each plain
  text or one escape sequence; the pieces are decoded on their own, and then every high half of a
  surrogate pair that stands directly before a low half is joined with it.
Imports: ModuleAlias.Text, ModuleAlias.Literal.Digit
Main exports: Literal.Piece, Literal.readPieces?, Literal.decodeEscape, Literal.joinPairs,
  Literal.valueOf
-/
import ModuleAlias.Text
import ModuleAlias.Literal.Digit

namespace ModuleAlias.Literal

/-!
### Pieces

A literal is cut into pieces before anything is decoded. An escape sequence is as long as it can
be: a line break of two characters, up to three octal digits, or digits in braces.
-/

/-- A piece of the text between the quotes of a literal. -/
inductive Piece where
  | plain (text : List Char)
  | escape (text : List Char)
deriving DecidableEq, Repr

/-- Whether a character is one of the sixteen ASCII digits of hexadecimal numbers. -/
def isHexDigit (c : Char) : Bool :=
  ('0' ≤ c && c ≤ '9') || ('a' ≤ c && c ≤ 'f') || ('A' ≤ c && c ≤ 'F')

/-- Whether a character is an octal digit. -/
def isOctalDigit (c : Char) : Bool := '0' ≤ c && c ≤ '7'

/-- The length of the escape sequence that follows a backslash, or nothing when none does. -/
def escapeLength? : List Char → Option Nat
  | 'x' :: a :: b :: _ => if isHexDigit a && isHexDigit b then some 3 else none
  | 'x' :: _ => none
  | 'u' :: '{' :: rest =>
    let digits := rest.takeWhile isHexDigit
    match digits, rest.drop digits.length with
    | _ :: _, '}' :: _ => some (digits.length + 3)
    | _, _ => none
  | 'u' :: rest =>
    if 4 ≤ rest.length && (rest.take 4).all isHexDigit then some 5 else none
  | '\r' :: '\n' :: _ => some 2
  | c :: rest =>
    if isOctalDigit c then some (((c :: rest).take 3).takeWhile isOctalDigit).length else some 1
  | [] => none

/-- Puts a plain character in front of a list of pieces. -/
def Piece.push (c : Char) : List Piece → List Piece
  | .plain text :: pieces => .plain (c :: text) :: pieces
  | pieces => .plain [c] :: pieces

/-- Reads the pieces of a literal from after its opening quote up to its closing one, and gives
what follows. A line feed or a carriage return ends no piece and makes the literal invalid. -/
def readPieces? (quote : Char) (rest : List Char) : Option (List Piece × List Char) :=
  match rest with
  | [] => none
  | c :: after =>
    if c = quote then some ([], after)
    else if c = '\\' then
      match escapeLength? after with
      | none => none
      | some length =>
        (readPieces? quote (after.drop length)).map fun (pieces, final) =>
          (.escape ('\\' :: after.take length) :: pieces, final)
    else if c = '\n' ∨ c = '\r' then none
    else
      (readPieces? quote after).map fun (pieces, final) => (Piece.push c pieces, final)
termination_by rest.length
decreasing_by all_goals (simp only [List.length_cons, List.length_drop]; omega)

/-!
### Decoding
-/

/-- The line breaks that a backslash takes out of a literal. -/
def lineBreaks : List (List Char) := [['\n'], ['\r', '\n'], ['\r'], ['\u2028'], ['\u2029']]

/-- The character that a backslash and a letter stand for. -/
def simpleEscape? : List Char → Option Char
  | ['b'] => some '\x08'
  | ['f'] => some '\x0c'
  | ['n'] => some '\n'
  | ['r'] => some '\r'
  | ['t'] => some '\t'
  | ['v'] => some '\x0b'
  | ['0'] => some '\x00'
  | _ => none

/-- The digits of a numeric escape without the braces around them. -/
def stripBraces (digits : List Char) : List Char :=
  if digits.head? = some '{' ∧ digits.getLast? = some '}' then (digits.drop 1).dropLast else digits

/-- A number in an escape is too large when it does not fit a machine word. -/
inductive EscapeFault where
  | tooLarge
deriving DecidableEq, Repr

/-- The code point written by the digits of an escape. A number that is not a code point is none;
one beyond a signed word of 32 bits is a fault. -/
def decodeNumber (digits : List Char) : Except EscapeFault (Option CodePoint) :=
  match readHexadecimal? digits with
  | none => .ok none
  | some number =>
    if number < -0x80000000 ∨ 0x80000000 ≤ number then .error .tooLarge
    else if number < 0 then .ok none
    else .ok (CodePoint.ofValue? number.toNat)

/-- The text that an escape sequence stands for. A sequence that stands for nothing else stands for
its text without the backslash. -/
def decodeEscape (escape : List Char) : Except EscapeFault Text :=
  let body := escape.drop 1
  if lineBreaks.contains body then .ok []
  else
    match body with
    | mark :: digit :: digits =>
      if mark = 'u' ∨ mark = 'x' then do
        match ← decodeNumber (stripBraces (digit :: digits)) with
        | some codePoint => return [codePoint]
        | none => return Text.ofChars body
      else .ok (Text.ofChars body)
    | _ =>
      match simpleEscape? body with
      | some char => .ok [.scalar char]
      | none => .ok (Text.ofChars body)

/-- The text that a piece stands for. -/
def Piece.decode : Piece → Except EscapeFault Text
  | .plain text => .ok (Text.ofChars text)
  | .escape text => decodeEscape text

/-- The scalar value whose pair has the given halves, both counted from `0xD800`. -/
def pairValue (high low : Nat) : Option CodePoint :=
  if high < 1024 ∧ 1024 ≤ low then
    CodePoint.ofValue? (0x10000 + high * 1024 + (low - 1024))
  else none

/-- Joins every high half that stands directly before a low half with it. -/
def joinPairs : Text → Text
  | .surrogate high :: .surrogate low :: rest =>
    match pairValue high.val low.val with
    | some joined => joined :: joinPairs rest
    | none => .surrogate high :: joinPairs (.surrogate low :: rest)
  | codePoint :: rest => codePoint :: joinPairs rest
  | [] => []

/-- The value of a literal, from its pieces. -/
def valueOf (pieces : List Piece) : Except EscapeFault Text := do
  let texts ← pieces.mapM Piece.decode
  return joinPairs texts.flatten

end ModuleAlias.Literal
