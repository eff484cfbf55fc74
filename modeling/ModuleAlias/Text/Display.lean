/-
Module: ModuleAlias.Text.Display
Purpose: Shows text in a message so that its ends and its invisible characters can be seen: between
  single quotes, or double ones when the text holds a single quote and no double one, with escapes
  for backslashes, the chosen quote and everything without a visible form.
Imports: ModuleAlias.Text.Printable, ModuleAlias.Literal.Quoted
Main exports: Text.display
-/
import ModuleAlias.Text.Printable
import ModuleAlias.Literal.Quoted

namespace ModuleAlias.Text

/-- The last hexadecimal digits of a number, as many as asked for. -/
def hexDigits (count number : Nat) : Text :=
  (List.range count).reverse.map fun place =>
    .scalar (Literal.hexDigit (number / Nat.pow 16 place % 16))

/-- An escape for a code point without a visible form, as short as its number allows. -/
def hiddenEscape (number : Nat) : Text :=
  if number ≤ 0xff then ofString "\\x" ++ hexDigits 2 number
  else if number ≤ 0xffff then ofString "\\u" ++ hexDigits 4 number
  else ofString "\\U" ++ hexDigits 8 number

/-- One code point of a shown text. -/
def displayOne (quote codePoint : CodePoint) : Text :=
  if codePoint = quote ∨ codePoint = Literal.backslash then [Literal.backslash, codePoint]
  else
    match codePoint with
    | .scalar '\t' => ofString "\\t"
    | .scalar '\n' => ofString "\\n"
    | .scalar '\r' => ofString "\\r"
    | codePoint =>
      if isPrintable codePoint.value then [codePoint] else hiddenEscape codePoint.value

/-- A text as a message shows it. -/
def display (text : Text) : Text :=
  let quote : CodePoint :=
    if text.contains (.scalar '\'') && !text.contains (.scalar '"') then .scalar '"'
    else .scalar '\''
  quote :: text.flatMap (displayOne quote) ++ [quote]

end ModuleAlias.Text
