/-
Module: ModuleAlias.Json.Reader
Purpose: Reads JSON text. Beside the standard grammar the words `NaN`, `Infinity` and `-Infinity`
  are numbers, and an escaped half of a surrogate pair may stand alone. A text that is no JSON is
  reported with what was wrong and where: the place is kept as the number of characters that were
  left, from which a message computes line, column and offset. An integer with too many digits is a
  failure of its own, without a message.
Imports: ModuleAlias.Value
Main exports: Json.Fault, Json.Fault.message, Json.Failure, Json.read
-/
import ModuleAlias.Value

namespace ModuleAlias.Json

/-- What can be wrong with a JSON text. -/
inductive Flaw where
  | byteOrderMark
  | value
  | name
  | colon
  | comma
  | trailing
  | openString
  | control
  | escape
  | unicodeEscape
deriving DecidableEq, Repr

/-- The words for a flaw. -/
def Flaw.message : Flaw → String
  | .byteOrderMark => "Unexpected UTF-8 BOM (decode using utf-8-sig)"
  | .value => "Expecting value"
  | .name => "Expecting property name enclosed in double quotes"
  | .colon => "Expecting ':' delimiter"
  | .comma => "Expecting ',' delimiter"
  | .trailing => "Extra data"
  | .openString => "Unterminated string starting at"
  | .control => "Invalid control character at"
  | .escape => "Invalid \\escape"
  | .unicodeEscape => "Invalid \\uXXXX escape"

/-- A flaw and the characters of the text before it. -/
structure Fault where
  flaw : Flaw
  before : List Char
deriving DecidableEq, Repr

namespace Fault

/-- The line of a fault, counted from one. -/
def line (fault : Fault) : Nat := fault.before.count '\n' + 1

/-- The column of a fault in its line, counted from one. -/
def column (fault : Fault) : Nat := (fault.before.reverse.takeWhile (· != '\n')).length + 1

/-- The words for a fault: what is wrong and where. -/
def message (fault : Fault) : String :=
  s!"{fault.flaw.message}: line {fault.line} column {fault.column} (char {fault.before.length})"

end Fault

/-- Why a text has no value: it is no JSON, or an integer in it has too many digits. -/
inductive Failure where
  | fault (fault : Fault)
  | longInteger
deriving DecidableEq, Repr

/-- Why reading stops: at a flaw, with the number of characters from it to the end of the text, or
at an integer with too many digits. -/
inductive Stop where
  | flawed (flaw : Flaw) (remaining : Nat)
  | longInteger

/-- A step of reading: a result and the characters after it. -/
abbrev Step (α : Type) := List Char → Except Stop (α × List Char)

/-- Fails at the beginning of `rest`. -/
def failAt {α : Type} (flaw : Flaw) (rest : List Char) : Except Stop α :=
  .error (.flawed flaw rest.length)

/-- The characters that may stand between the parts of a JSON text. -/
def isBlank (c : Char) : Bool := c == ' ' || c == '\t' || c == '\n' || c == '\r'

/-- The text from its first character that is not blank. -/
def skipBlank (rest : List Char) : List Char := rest.dropWhile isBlank

/-- The value of a hexadecimal digit. -/
def hexDigit? (c : Char) : Option Nat :=
  if '0' ≤ c ∧ c ≤ '9' then some (c.toNat - '0'.toNat)
  else if 'a' ≤ c ∧ c ≤ 'f' then some (c.toNat - 'a'.toNat + 10)
  else if 'A' ≤ c ∧ c ≤ 'F' then some (c.toNat - 'A'.toNat + 10)
  else none

/-- The number written by four hexadecimal digits. -/
def fourDigits? : List Char → Option Nat
  | [a, b, c, d] => do
    let a ← hexDigit? a
    let b ← hexDigit? b
    let c ← hexDigit? c
    let d ← hexDigit? d
    return ((a * 16 + b) * 16 + c) * 16 + d
  | _ => none

/-- The code point of a number below `0x10000`. -/
def unit (number : Nat) : CodePoint := (CodePoint.ofValue? number).getD (.scalar '\x00')

/-- The code point that a high and a low half make together. -/
def pair (high low : Nat) : CodePoint :=
  (CodePoint.ofValue? (0x10000 + (high - 0xD800) * 0x400 + (low - 0xDC00))).getD (.scalar '\x00')

/-- The character that a backslash and a letter stand for. -/
def simpleEscape? : Char → Option Char
  | '"' => some '"'
  | '\\' => some '\\'
  | '/' => some '/'
  | 'b' => some '\x08'
  | 'f' => some '\x0c'
  | 'n' => some '\n'
  | 'r' => some '\r'
  | 't' => some '\t'
  | _ => none

/-- Reads what follows the opening quote of a string. `opening` is the number of characters from
that quote to the end of the text. -/
def readString (opening : Nat) (reversed : Text) (rest : List Char) :
    Except Stop (Text × List Char) :=
  match rest with
  | [] => .error (.flawed .openString opening)
  | '"' :: after => .ok (reversed.reverse, after)
  | ['\\'] => .error (.flawed .openString opening)
  | '\\' :: 'u' :: after =>
    if after.length ≤ 4 then
      .error (.flawed .unicodeEscape (after.length + 1))
    else
      match fourDigits? (after.take 4) with
      | none => .error (.flawed .unicodeEscape (after.length + 1))
      | some first =>
        match after.drop 4 with
        | '\\' :: 'u' :: more =>
          if 0xD800 ≤ first ∧ first < 0xDC00 ∧ 4 < more.length then
            match fourDigits? (more.take 4) with
            | none => .error (.flawed .unicodeEscape (more.length + 1))
            | some second =>
              if 0xDC00 ≤ second ∧ second < 0xE000 then
                readString opening (pair first second :: reversed) (after.drop 10)
              else
                readString opening (unit first :: reversed) (after.drop 4)
          else
            readString opening (unit first :: reversed) (after.drop 4)
        | _ => readString opening (unit first :: reversed) (after.drop 4)
  | '\\' :: letter :: after =>
    match simpleEscape? letter with
    | some meant => readString opening (.scalar meant :: reversed) after
    | none => .error (.flawed .escape (after.length + 2))
  | c :: after =>
    if c.toNat < 0x20 then .error (.flawed .control (after.length + 1))
    else readString opening (.scalar c :: reversed) after
termination_by rest.length
decreasing_by all_goals (simp only [List.length_cons, List.length_drop]; omega)

/-- The digits at the beginning of a text. -/
def digits (rest : List Char) : List Char := rest.takeWhile Char.isDigit

/-- The number that a list of digits writes. -/
def digitsValue (written : List Char) : Nat :=
  written.foldl (fun total c => total * 10 + (c.toNat - '0'.toNat)) 0

/-- The exponent part at the beginning of a text, if there is one: its value and what follows. -/
def readExponent? : List Char → Option (Int × List Char)
  | mark :: rest =>
    if mark == 'e' || mark == 'E' then
      let (negative, rest) := match rest with
        | '-' :: rest => (true, rest)
        | '+' :: rest => (false, rest)
        | rest => (false, rest)
      let written := digits rest
      if written.isEmpty then none
      else
        let value : Int := digitsValue written
        some (if negative then -value else value, rest.drop written.length)
    else none
  | [] => none

/-- The fraction part at the beginning of a text, if there is one: its digits and what follows. -/
def readFraction? : List Char → Option (List Char × List Char)
  | '.' :: rest =>
    let written := digits rest
    if written.isEmpty then none else some (written, rest.drop written.length)
  | _ => none

/-- Reads a number after its sign. -/
def readUnsigned? (negative : Bool) (rest : List Char) : Option (Number × List Char) :=
  let whole := match rest with
    | '0' :: _ => ['0']
    | rest => digits rest
  if whole.isEmpty then none
  else
    let after := rest.drop whole.length
    match readFraction? after with
    | some (fraction, after) =>
      let written := digitsValue (whole ++ fraction)
      let places : Int := fraction.length
      match readExponent? after with
      | some (exponent, after) => some (.decimal negative written (exponent - places), after)
      | none => some (.decimal negative written (-places), after)
    | none =>
      let written := digitsValue whole
      match readExponent? after with
      | some (exponent, after) => some (.decimal negative written exponent, after)
      | none => some (.integer (if negative then -(written : Int) else written), after)

/-- Reads a number. -/
def readNumber? : List Char → Option (Number × List Char)
  | '-' :: rest => readUnsigned? true rest
  | rest => readUnsigned? false rest

/-- The most digits that an integer may have. -/
def maxDigits : Nat := 4300

/-- Whether a number is an integer with too many digits. -/
def isLong : Number → Bool
  | .integer value => Nat.pow 10 maxDigits ≤ value.natAbs
  | _ => false

/-- The words that stand for values. -/
def words : List (List Char × Value) :=
  [("null".toList, .null), ("true".toList, .boolean true), ("false".toList, .boolean false),
    ("NaN".toList, .number .undefined), ("Infinity".toList, .number (.infinite false)),
    ("-Infinity".toList, .number (.infinite true))]

/-- Reads a word or a number. -/
def readPlain : Step Value := fun rest =>
  match words.find? fun word => word.1.isPrefixOf rest with
  | some (spelling, value) => .ok (value, rest.drop spelling.length)
  | none =>
    match readNumber? rest with
    | some (number, after) =>
      if isLong number then .error .longInteger else .ok (.number number, after)
    | none => failAt .value rest

mutual

/-- Reads one value. Every step reads at least one character, so fuel above the number of
characters never runs out. -/
def readValue (fuel : Nat) : Step Value := fun rest =>
  match fuel with
  | 0 => failAt .value rest
  | fuel + 1 =>
    match rest with
    | '"' :: after => do
      let (text, after) ← readString rest.length [] after
      return (.text text, after)
    | '{' :: after =>
      match skipBlank after with
      | '}' :: after => .ok (.object [], after)
      | after => readMembers fuel [] after
    | '[' :: after =>
      match skipBlank after with
      | ']' :: after => .ok (.list [], after)
      | after => readItems fuel [] after
    | rest => readPlain rest

/-- Reads the members of an object from the name of one to the closing brace. -/
def readMembers (fuel : Nat) (members : Members) : Step Value := fun rest =>
  match fuel with
  | 0 => failAt .value rest
  | fuel + 1 =>
    match rest with
    | '"' :: after => do
      let (name, after) ← readString rest.length [] after
      match skipBlank after with
      | ':' :: after =>
        let (value, after) ← readValue fuel (skipBlank after)
        let members := Members.put members name value
        match skipBlank after with
        | '}' :: after => return (.object members, after)
        | ',' :: after => readMembers fuel members (skipBlank after)
        | after => failAt .comma after
      | after => failAt .colon after
    | rest => failAt .name rest

/-- Reads the items of a list from one of them to the closing bracket. -/
def readItems (fuel : Nat) (reversed : List Value) : Step Value := fun rest =>
  match fuel with
  | 0 => failAt .value rest
  | fuel + 1 => do
    let (value, after) ← readValue fuel rest
    match skipBlank after with
    | ']' :: after => return (.list (value :: reversed).reverse, after)
    | ',' :: after => readItems fuel (value :: reversed) (skipBlank after)
    | after => failAt .comma after

end

/-- Reads a whole text as one value. -/
def readAll (text : List Char) : Except Stop Value := do
  match text with
  | '\ufeff' :: _ => failAt .byteOrderMark text
  | _ =>
    let (value, after) ← readValue (text.length + 1) (skipBlank text)
    match skipBlank after with
    | [] => return value
    | after => failAt .trailing after

/-- Reads a JSON text. -/
def read (text : List Char) : Except Failure Value :=
  match readAll text with
  | .ok value => .ok value
  | .error (.flawed flaw remaining) =>
    .error (.fault { flaw, before := text.take (text.length - remaining) })
  | .error .longInteger => .error .longInteger

end ModuleAlias.Json
