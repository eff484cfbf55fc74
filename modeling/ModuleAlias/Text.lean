/-
Module: ModuleAlias.Text
Purpose: Text whose characters may be halves of a surrogate pair. A module specifier that is
  written with escapes, and a string of a JSON configuration, can hold such a half on its own, so
  specifiers, alias keys, alias targets, and the paths made from them are lists of code points
  rather than of scalar values.
Imports: none
Main exports: CodePoint, Text, Text.ofString, Text.toString?, Text.split, Text.join,
  Text.lessThan
-/

namespace ModuleAlias

/-- A code point: a scalar value, or one of the 2048 surrogates, counted from `0xD800`. -/
inductive CodePoint where
  | scalar (char : Char)
  | surrogate (index : Fin 2048)
deriving DecidableEq, Repr, Inhabited

namespace CodePoint

/-- The number of a code point. -/
def value : CodePoint → Nat
  | .scalar char => char.toNat
  | .surrogate index => 0xD800 + index.val

/-- The code point with a given number; there is none above `0x10FFFF`. -/
def ofValue? (number : Nat) : Option CodePoint :=
  if low : 0xD800 ≤ number ∧ number < 0xE000 then
    some (.surrogate ⟨number - 0xD800, by omega⟩)
  else if valid : number.isValidChar then
    some (.scalar (Char.ofNatAux number valid))
  else
    none

/-- The scalar value of a code point that is one. -/
def toChar? : CodePoint → Option Char
  | .scalar char => some char
  | .surrogate _ => none

instance : Coe Char CodePoint := ⟨.scalar⟩

end CodePoint

/-- A sequence of code points. -/
abbrev Text := List CodePoint

namespace Text

/-- The text made of the characters of a list. -/
def ofChars (chars : List Char) : Text := chars.map .scalar

/-- The text made of the characters of a string. -/
def ofString (string : String) : Text := ofChars string.toList

instance : Coe String Text := ⟨ofString⟩

/-- The characters of a text that holds no surrogate. -/
def toChars? (text : Text) : Option (List Char) := text.mapM CodePoint.toChar?

/-- The string of a text that holds no surrogate. -/
def toString? (text : Text) : Option String := (toChars? text).map String.ofList

/-- Whether one text comes before another in the order of code point numbers. -/
def lessThan : Text → Text → Bool
  | [], [] => false
  | [], _ :: _ => true
  | _ :: _, [] => false
  | a :: as, b :: bs => a.value < b.value || (a.value == b.value && lessThan as bs)

/-- The pieces of a list between the occurrences of a separator. There is always at least one
piece; the pieces of the empty list are one empty piece. -/
def split {α : Type} [DecidableEq α] (separator : α) : List α → List (List α)
  | [] => [[]]
  | item :: items =>
    if item = separator then
      [] :: split separator items
    else
      match split separator items with
      | [] => [[item]]
      | piece :: pieces => (item :: piece) :: pieces

/-- The pieces of a list joined by a separator. -/
def join {α : Type} (separator : α) : List (List α) → List α
  | [] => []
  | [piece] => piece
  | piece :: pieces => piece ++ separator :: join separator pieces

end Text

end ModuleAlias
