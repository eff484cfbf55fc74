/-
Module: ModuleAlias.Value.Display
Purpose: Shows values in a message. Texts are shown between quotes, lists and objects with their
  parts, decimals with the fewest digits: positionally from `0.0001` up to sixteen digits, and with
  an exponent otherwise.
Imports: ModuleAlias.Value, ModuleAlias.Text.Display
Main exports: Number.display, Value.display
-/
import ModuleAlias.Value
import ModuleAlias.Text.Display

namespace ModuleAlias

namespace Number

/-- The digits of a number. -/
def decimalDigits (number : Nat) : List Char := Nat.toDigits 10 number

/-- Digits without the zeros at their end, and the number of zeros taken away. -/
def withoutZeros (digits : List Char) : List Char × Nat :=
  let kept := (digits.reverse.dropWhile (· == '0')).reverse
  (kept, digits.length - kept.length)

/-- Digits with a point that stands after a number of them. -/
def positional (digits : List Char) (point : Int) : List Char :=
  if point ≤ 0 then "0.".toList ++ List.replicate (-point).toNat '0' ++ digits
  else
    let whole := digits.take point.toNat
    let filled := whole ++ List.replicate (point.toNat - whole.length) '0'
    match digits.drop point.toNat with
    | [] => filled ++ ".0".toList
    | fraction => filled ++ '.' :: fraction

/-- An exponent with its sign and at least two digits. -/
def exponentText (exponent : Int) : List Char :=
  let digits := decimalDigits exponent.natAbs
  let padded := if digits.length < 2 then '0' :: digits else digits
  (if exponent < 0 then '-' else '+') :: padded

/-- Digits with a point after the first one, and an exponent. -/
def scientific (digits : List Char) (exponent : Int) : List Char :=
  let mantissa := match digits with
    | first :: second :: rest => first :: '.' :: second :: rest
    | digits => digits
  mantissa ++ 'e' :: exponentText exponent

/-- A nonnegative double in decimal digits. -/
def displayDigits (decimal : Decimal.Digits) : List Char :=
  if decimal.digits = 0 then "0.0".toList
  else
    let (digits, dropped) := withoutZeros (decimalDigits decimal.digits)
    let point : Int := digits.length + dropped + decimal.exponent
    if -4 < point ∧ point ≤ 16 then positional digits point else scientific digits (point - 1)

/-- A number as a message shows it. -/
def display : Number → List Char
  | .integer value => (toString value).toList
  | .decimal negative digits exponent =>
    let sign := if negative then ['-'] else []
    match Decimal.nearest? { digits, exponent } with
    | some value => sign ++ displayDigits (Decimal.shortest value)
    | none => sign ++ "inf".toList
  | .infinite negative => (if negative then "-inf" else "inf").toList
  | .undefined => "nan".toList

end Number

namespace Value

mutual

/-- A value as a message shows it. -/
def display : Value → Text
  | .null => Text.ofString "None"
  | .boolean true => Text.ofString "True"
  | .boolean false => Text.ofString "False"
  | .number written => Text.ofChars written.display
  | .text shown => Text.display shown
  | .list items => Text.ofChars ['['] ++ displayItems items ++ Text.ofChars [']']
  | .object members =>
    Text.ofChars ['\x7b'] ++ displayMembers members ++ Text.ofChars ['\x7d']
  | .function _ => Text.ofString "<function>"
  | .definitions _ => Text.ofString "<module>"

/-- The items of a list with commas between them. -/
def displayItems : List Value → Text
  | [] => []
  | [item] => display item
  | item :: items => display item ++ Text.ofString ", " ++ displayItems items

/-- The members of an object with commas between them. -/
def displayMembers : List (Text × Value) → Text
  | [] => []
  | [(name, value)] => Text.display name ++ Text.ofString ": " ++ display value
  | (name, value) :: members =>
    Text.display name ++ Text.ofString ": " ++ display value ++ Text.ofString ", " ++
      displayMembers members

end

end Value

end ModuleAlias
