/-
Module: ModuleAlias.Literal.Quoted
Purpose: Writes text as a string literal, in two ways. `quoted` keeps the text as it is, between
  quotes of the given kind, with a backslash before every backslash and every quote in it.
  `asciiQuoted` writes double quotes and ASCII alone, every other code point as escaped units of
  sixteen bits.
Imports: ModuleAlias.Text
Main exports: Literal.quoted, Literal.asciiQuoted
-/
import ModuleAlias.Text

namespace ModuleAlias.Literal

/-- The backslash. -/
def backslash : CodePoint := .scalar '\\'

/-- Puts a backslash before every occurrence of a mark in a text, from left to right; occurrences
do not overlap. `skip` counts the code points that still belong to the last one. The empty mark
occurs before every code point and at the end. -/
def escapeEvery (mark : Text) : Nat → Text → Text
  | _, [] => if mark = [] then [backslash] else []
  | skip + 1, codePoint :: rest => codePoint :: escapeEvery mark skip rest
  | 0, codePoint :: rest =>
    if mark.isPrefixOf (codePoint :: rest) then
      backslash :: codePoint :: escapeEvery mark (mark.length - 1) rest
    else
      codePoint :: escapeEvery mark 0 rest

/-- A text as a literal between the given quotes. -/
def quoted (quote value : Text) : Text :=
  quote ++ escapeEvery quote 0 (escapeEvery [backslash] 0 value) ++ quote

/-- A hexadecimal digit in lower case. -/
def hexDigit (digit : Nat) : Char :=
  if digit < 10 then Char.ofNat ('0'.toNat + digit) else Char.ofNat ('a'.toNat + (digit - 10))

/-- An escaped unit of sixteen bits. -/
def unitEscape (unit : Nat) : List Char :=
  ['\\', 'u', hexDigit (unit / 4096 % 16), hexDigit (unit / 256 % 16), hexDigit (unit / 16 % 16),
    hexDigit (unit % 16)]

/-- The units of sixteen bits that a code point is made of. -/
def units (codePoint : CodePoint) : List Nat :=
  if codePoint.value < 0x10000 then [codePoint.value]
  else
    let offset := codePoint.value - 0x10000
    [0xD800 + offset / 1024, 0xDC00 + offset % 1024]

/-- One code point of an ASCII literal. -/
def asciiEscape (codePoint : CodePoint) : List Char :=
  match codePoint with
  | .scalar '"' => ['\\', '"']
  | .scalar '\\' => ['\\', '\\']
  | .scalar '\n' => ['\\', 'n']
  | .scalar '\r' => ['\\', 'r']
  | .scalar '\t' => ['\\', 't']
  | .scalar '\x08' => ['\\', 'b']
  | .scalar '\x0c' => ['\\', 'f']
  | .scalar c =>
    if ' ' ≤ c ∧ c ≤ '~' then [c] else (units codePoint).flatMap unitEscape
  | .surrogate _ => (units codePoint).flatMap unitEscape

/-- A text as a double-quoted literal of ASCII characters. -/
def asciiQuoted (value : Text) : List Char :=
  '"' :: value.flatMap asciiEscape ++ ['"']

end ModuleAlias.Literal
