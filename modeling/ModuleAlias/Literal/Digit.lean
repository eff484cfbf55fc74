/-
Module: ModuleAlias.Literal.Digit
Purpose: Hexadecimal numbers in text, read generously: blanks around the number, a sign, a `0x`
  mark, single underscores between digits and the decimal digits of every script are accepted.
Imports: none
Main exports: Literal.hexDigit?, Literal.readHexadecimal?
-/

namespace ModuleAlias.Literal

/-- The code points of the digit zero in the scripts beyond ASCII; each begins a run of ten. -/
def foreignZeros : List Nat :=
  [0x660, 0x6f0, 0x7c0, 0x966, 0x9e6, 0xa66, 0xae6, 0xb66, 0xbe6, 0xc66, 0xce6, 0xd66, 0xde6,
    0xe50, 0xed0, 0xf20, 0x1040, 0x1090, 0x17e0, 0x1810, 0x1946, 0x19d0, 0x1a80, 0x1a90, 0x1b50,
    0x1bb0, 0x1c40, 0x1c50, 0xa620, 0xa8d0, 0xa900, 0xa9d0, 0xa9f0, 0xaa50, 0xabf0, 0xff10,
    0x104a0, 0x10d30, 0x11066, 0x110f0, 0x11136, 0x111d0, 0x112f0, 0x11450, 0x114d0, 0x11650,
    0x116c0, 0x11730, 0x118e0, 0x11950, 0x11c50, 0x11d50, 0x11da0, 0x16a60, 0x16ac0, 0x16b50,
    0x1d7ce, 0x1d7d8, 0x1d7e2, 0x1d7ec, 0x1d7f6, 0x1e140, 0x1e2f0, 0x1e950, 0x1fbf0]

/-- The value of a decimal digit of a script beyond ASCII. -/
def foreignDigit? (c : Char) : Option Nat :=
  (foreignZeros.find? fun first => first ≤ c.toNat ∧ c.toNat < first + 10).map (c.toNat - ·)

/-- The value of a hexadecimal digit. -/
def hexDigit? (c : Char) : Option Nat :=
  if '0' ≤ c ∧ c ≤ '9' then some (c.toNat - '0'.toNat)
  else if 'a' ≤ c ∧ c ≤ 'f' then some (c.toNat - 'a'.toNat + 10)
  else if 'A' ≤ c ∧ c ≤ 'F' then some (c.toNat - 'A'.toNat + 10)
  else foreignDigit? c

/-- The blanks that may stand around a number: the six of ASCII, and those beyond it. -/
def isNumberBlank (c : Char) : Bool :=
  c == ' ' || (9 ≤ c.toNat && c.toNat ≤ 13) ||
    [0x85, 0xa0, 0x1680, 0x2028, 0x2029, 0x202f, 0x205f, 0x3000].contains c.toNat ||
    (0x2000 ≤ c.toNat && c.toNat ≤ 0x200a)

/-- Reads digits between which single underscores may stand. `afterDigit` tells whether the
character before was a digit, as it has to be at an underscore and at the end. -/
def readDigits? (afterDigit : Bool) (total : Nat) : List Char → Option Nat
  | [] => if afterDigit then some total else none
  | '_' :: rest => if afterDigit then readDigits? false total rest else none
  | c :: rest =>
    match hexDigit? c with
    | some digit => readDigits? true (total * 16 + digit) rest
    | none => none

/-- Reads a number after its sign: a `0x` mark, an underscore after the mark, and digits. -/
def readMagnitude? : List Char → Option Nat
  | first :: mark :: rest =>
    if hexDigit? first == some 0 && (mark == 'x' || mark == 'X') then
      match rest with
      | '_' :: digits => readDigits? false 0 digits
      | digits => readDigits? false 0 digits
    else
      readDigits? false 0 (first :: mark :: rest)
  | rest => readDigits? false 0 rest

/-- Reads a hexadecimal number with an optional sign and blanks around it. -/
def readHexadecimal? (text : List Char) : Option Int :=
  let trimmed := ((text.dropWhile isNumberBlank).reverse.dropWhile isNumberBlank).reverse
  match trimmed with
  | '-' :: rest => (readMagnitude? rest).map fun magnitude => -(magnitude : Int)
  | '+' :: rest => (readMagnitude? rest).map Int.ofNat
  | rest => (readMagnitude? rest).map Int.ofNat

end ModuleAlias.Literal
