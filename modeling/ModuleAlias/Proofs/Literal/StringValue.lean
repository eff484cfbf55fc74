/-
Module: ModuleAlias.Proofs.Literal.StringValue
Purpose: String literals mean what the language says they mean. The grammar of literals is given as
  a relation between the text between the quotes, its pieces, and the units of sixteen bits that the
  language gives it as its value. Reading a literal cuts it into these pieces, and decoding the
  pieces gives a text with these units.
Imports: ModuleAlias.Proofs.Literal.CodeUnits, ModuleAlias.Replacement.Decision
Main exports: Literal.EscapeValue, Literal.LiteralValue, Literal.readPieces?_of_literalValue,
  Literal.exists_valueOf, Literal.literal_means_its_value
-/
import ModuleAlias.Proofs.Literal.CodeUnits
import ModuleAlias.Replacement.Decision

namespace ModuleAlias.Literal

/-!
### The grammar of literals
-/

/-- The sixteen digits of hexadecimal numbers, in order. -/
def smallHexDigits : List Char :=
  ['0', '1', '2', '3', '4', '5', '6', '7', '8', '9', 'a', 'b', 'c', 'd', 'e', 'f']

/-- The digits of hexadecimal numbers, in either case. -/
def hexDigits : List Char := smallHexDigits ++ ['A', 'B', 'C', 'D', 'E', 'F']

/-- The value of a digit is its place in the order. -/
def digitValue (digit : Char) : Nat := smallHexDigits.idxOf digit.toLower

/-- The number that digits write. -/
def numeral (digits : List Char) : Nat :=
  digits.foldl (fun number digit => number * 16 + digitValue digit) 0

/-- The ends of a line; the two characters of the second form are one end. -/
def lineEnds : List (List Char) := [['\n'], ['\r', '\n'], ['\r'], ['\u2028'], ['\u2029']]

/-- The characters that stand for a unit behind a backslash, with that unit. -/
def singleEscapes : List (Char × Nat) :=
  [('\'', 0x27), ('"', 0x22), ('\\', 0x5C), ('b', 0x08), ('f', 0x0C), ('n', 0x0A), ('r', 0x0D),
    ('t', 0x09), ('v', 0x0B)]

/-- Whether a character stands for itself behind a backslash: it begins no number, is no octal
digit, ends no line and stands for nothing else. -/
def StandsForItself (c : Char) : Prop :=
  c ≠ 'x' ∧ c ≠ 'u' ∧ ¬ ('0' ≤ c ∧ c ≤ '7') ∧
    c ∉ ['\n', '\r', '\u2028', '\u2029'] ∧ c ∉ singleEscapes.map Prod.fst

/-- What may stand behind the backslash of an escape sequence, and the units it stands for. -/
inductive EscapeValue : List Char → List Nat → Prop
  | lineEnd {body : List Char} (ends : body ∈ lineEnds) : EscapeValue body []
  | null : EscapeValue ['0'] [0]
  | single {c : Char} {unit : Nat} (listed : (c, unit) ∈ singleEscapes) : EscapeValue [c] [unit]
  | itself {c : Char} (stands : StandsForItself c) : EscapeValue [c] (unitsOf c.toNat)
  | twoDigits {a b : Char} (digits : ∀ digit ∈ [a, b], digit ∈ hexDigits) :
      EscapeValue ['x', a, b] [numeral [a, b]]
  | fourDigits {a b c d : Char} (digits : ∀ digit ∈ [a, b, c, d], digit ∈ hexDigits) :
      EscapeValue ['u', a, b, c, d] [numeral [a, b, c, d]]
  | braces {number : List Char} (nonempty : number ≠ [])
      (digits : ∀ digit ∈ number, digit ∈ hexDigits) (valid : numeral number ≤ 0x10FFFF) :
      EscapeValue ('u' :: '{' :: (number ++ ['}'])) (unitsOf (numeral number))

/-- What may follow an escape sequence: no digit the one for null, and no line feed one that ends a
line by a carriage return alone. -/
def MayPrecede (body rest : List Char) : Prop :=
  (body = ['0'] → ∀ c ∈ rest.head?, c.isDigit = false) ∧
    (body = ['\r'] → rest.head? ≠ some '\n')

/-- Whether a character may stand as it is between quotes of a kind. -/
def StandsBetween (quote c : Char) : Prop := c ≠ quote ∧ c ≠ '\\' ∧ c ≠ '\n' ∧ c ≠ '\r'

/-- The text between the quotes of a literal, its pieces, and the units of its value. -/
inductive LiteralValue (quote : Char) : List Char → List Piece → List Nat → Prop
  | empty : LiteralValue quote [] [] []
  | plain {c : Char} {text : List Char} {pieces : List Piece} {units : List Nat}
      (stands : StandsBetween quote c) (more : LiteralValue quote text pieces units) :
      LiteralValue quote (c :: text) (Piece.push c pieces) (unitsOf c.toNat ++ units)
  | escape {body text : List Char} {value units : List Nat} {pieces : List Piece}
      (sequence : EscapeValue body value) (before : MayPrecede body text)
      (more : LiteralValue quote text pieces units) :
      LiteralValue quote ('\\' :: (body ++ text)) (.escape ('\\' :: body) :: pieces)
        (value ++ units)

/-!
### Hexadecimal numbers
-/

theorem isHexDigit_of_mem {c : Char} (digit : c ∈ hexDigits) : isHexDigit c = true := by
  have all : hexDigits.all isHexDigit = true := by decide
  exact List.all_eq_true.1 all c digit

/-- A digit is read by its value, and is none of the other characters that a number may hold. -/
theorem hexDigit?_of_mem {c : Char} (digit : c ∈ hexDigits) :
    hexDigit? c = some (digitValue c) ∧ isNumberBlank c = false ∧
      c ∉ ['_', '-', '+', 'x', 'X', '{'] := by
  have all : (hexDigits.all fun c => hexDigit? c = some (digitValue c) ∧
      isNumberBlank c = false ∧ c ∉ ['_', '-', '+', 'x', 'X', '{']) = true := by decide
  exact of_decide_eq_true (List.all_eq_true.1 all c digit)

theorem readDigits?_of_hexDigits {digits : List Char} (hex : ∀ digit ∈ digits, digit ∈ hexDigits)
    (total : Nat) :
    readDigits? true total digits =
      some (digits.foldl (fun number digit => number * 16 + digitValue digit) total) := by
  induction digits generalizing total with
  | nil => rfl
  | cons digit digits ih =>
      obtain ⟨value, _, other⟩ := hexDigit?_of_mem (hex digit List.mem_cons_self)
      have notUnderscore : digit ≠ '_' := by
        rintro rfl
        simp at other
      rw [readDigits?, value, List.foldl_cons]
      · exact ih (fun digit known => hex digit (List.mem_cons_of_mem _ known)) _
      · exact notUnderscore

theorem readMagnitude?_of_hexDigits {digits : List Char} (nonempty : digits ≠ [])
    (hex : ∀ digit ∈ digits, digit ∈ hexDigits) :
    readMagnitude? digits = some (numeral digits) := by
  have read : readDigits? false 0 digits = some (numeral digits) := by
    cases digits with
    | nil => exact absurd rfl nonempty
    | cons digit digits =>
        obtain ⟨value, _, other⟩ := hexDigit?_of_mem (hex digit List.mem_cons_self)
        have notUnderscore : digit ≠ '_' := by
          rintro rfl
          simp at other
        rw [readDigits?, value]
        · exact readDigits?_of_hexDigits
            (fun digit known => hex digit (List.mem_cons_of_mem _ known)) _
        · exact notUnderscore
  match digits with
  | [] => exact absurd rfl nonempty
  | [_] => exact read
  | first :: mark :: rest =>
      obtain ⟨_, _, other⟩ := hexDigit?_of_mem (hex mark (by simp))
      have notMark : (mark == 'x' || mark == 'X') = false := by
        simp only [List.mem_cons, not_or] at other
        simp [other]
      have bare : readMagnitude? (first :: mark :: rest) =
          readDigits? false 0 (first :: mark :: rest) := by
        simp [readMagnitude?, notMark]
      rw [bare, read]

theorem readHexadecimal?_of_hexDigits {digits : List Char} (nonempty : digits ≠ [])
    (hex : ∀ digit ∈ digits, digit ∈ hexDigits) :
    readHexadecimal? digits = some (numeral digits : Int) := by
  have kept : ∀ digits : List Char, (∀ digit ∈ digits, digit ∈ hexDigits) →
      digits.dropWhile isNumberBlank = digits := by
    intro digits hex
    cases digits with
    | nil => rfl
    | cons digit digits =>
        exact List.dropWhile_cons_of_neg
          (by simp [(hexDigit?_of_mem (hex digit List.mem_cons_self)).2.1])
  have trimmed : ((digits.dropWhile isNumberBlank).reverse.dropWhile isNumberBlank).reverse =
      digits := by
    have reversed : ∀ digit ∈ digits.reverse, digit ∈ hexDigits :=
      fun digit known => hex digit (List.mem_reverse.1 known)
    rw [kept digits hex, kept digits.reverse reversed, List.reverse_reverse]
  have magnitude := readMagnitude?_of_hexDigits nonempty hex
  cases digits with
  | nil => exact absurd rfl nonempty
  | cons first rest =>
      obtain ⟨_, _, other⟩ := hexDigit?_of_mem (hex first List.mem_cons_self)
      simp only [List.mem_cons, not_or] at other
      simp only [readHexadecimal?, trimmed]
      split
      · rename_i same
        cases same
        exact absurd rfl other.2.1
      · rename_i same
        cases same
        exact absurd rfl other.2.2.1
      · rw [magnitude]
        rfl

/-- The digits of a valid number are decoded to the code point with that number. -/
theorem decodeNumber_of_hexDigits {digits : List Char} (nonempty : digits ≠ [])
    (hex : ∀ digit ∈ digits, digit ∈ hexDigits) (valid : numeral digits ≤ 0x10FFFF) :
    ∃ codePoint : CodePoint, decodeNumber digits = .ok (some codePoint) ∧
      codePoint.value = numeral digits := by
  obtain ⟨codePoint, found, number⟩ := CodePoint.exists_ofValue? valid
  refine ⟨codePoint, ?_, number⟩
  have fits : ¬ ((numeral digits : Int) < -0x80000000 ∨ 0x80000000 ≤ (numeral digits : Int)) := by
    omega
  have natural : ¬ (numeral digits : Int) < 0 := by omega
  simp only [decodeNumber, readHexadecimal?_of_hexDigits nonempty hex, if_neg fits,
    if_neg natural, Int.toNat_natCast, found]

/-!
### Escape sequences
-/

/-- A sequence of a mark and digits stands for the code point with their number. If there is none,
it stands for its text without the backslash. -/
theorem decodeEscape_of_numeric {sequence digits : List Char} {mark digit : Char}
    (body : sequence.drop 1 = mark :: digit :: digits) (isMark : mark = 'u' ∨ mark = 'x') :
    decodeEscape sequence = (decodeNumber (stripBraces (digit :: digits))).map fun
      | some codePoint => [codePoint]
      | none => Text.ofChars (mark :: digit :: digits) := by
  have noBreak : lineBreaks.contains (mark :: digit :: digits) = false := by
    rcases isMark with rfl | rfl
    · simp [lineBreaks]
    · simp [lineBreaks]
  simp only [decodeEscape, body, noBreak, if_pos isMark]
  cases decodeNumber (stripBraces (digit :: digits)) with
  | error fault => rfl
  | ok number =>
      cases number with
      | none => rfl
      | some codePoint => rfl

/-- A number behind its mark is decoded to the code point with that number. -/
theorem decodeEscape_number {mark digit : Char} {digits : List Char}
    (isMark : mark = 'u' ∨ mark = 'x') {codePoint : CodePoint}
    (decoded : decodeNumber (stripBraces (digit :: digits)) = .ok (some codePoint)) :
    decodeEscape ('\\' :: mark :: digit :: digits) = .ok [codePoint] := by
  rw [decodeEscape_of_numeric rfl isMark, decoded]
  rfl

theorem stripBraces_of_hexDigits {digits : List Char}
    (hex : ∀ digit ∈ digits, digit ∈ hexDigits) : stripBraces digits = digits := by
  have noBrace : digits.head? ≠ some '{' := by
    intro begins
    have digit := hex '{' (List.mem_of_mem_head? begins)
    exact absurd digit (by decide)
  exact if_neg fun braced => noBrace braced.1

theorem stripBraces_braced (digits : List Char) :
    stripBraces ('{' :: (digits ++ ['}'])) = digits := by
  have braced : ('{' :: (digits ++ ['}'])).head? = some '{' ∧
      ('{' :: (digits ++ ['}'])).getLast? = some '}' := by
    refine ⟨rfl, ?_⟩
    rw [← List.cons_append]
    exact List.getLast?_concat
  rw [stripBraces, if_pos braced, List.drop_succ_cons, List.drop_zero, List.dropLast_concat]

theorem digitValue_lt {c : Char} (digit : c ∈ hexDigits) : digitValue c < 16 := by
  have all : (hexDigits.all fun c => digitValue c < 16) = true := by decide
  exact of_decide_eq_true (List.all_eq_true.1 all c digit)

/-- A few digits write a number of that many digits. -/
theorem numeral_lt {digits : List Char} (hex : ∀ digit ∈ digits, digit ∈ hexDigits) :
    numeral digits < Nat.pow 16 digits.length := by
  have bound : ∀ number bound : Nat, number < bound →
      digits.foldl (fun number digit => number * 16 + digitValue digit) number <
        bound * Nat.pow 16 digits.length := by
    induction digits with
    | nil => intro number bound less; simpa using less
    | cons digit digits ih =>
        intro number bound less
        have small := digitValue_lt (hex digit List.mem_cons_self)
        have grown := ih (fun digit known => hex digit (List.mem_cons_of_mem _ known))
          (number * 16 + digitValue digit) (bound * 16) (by omega)
        have power : Nat.pow 16 (digits.length + 1) = 16 * Nat.pow 16 digits.length :=
          Nat.pow_succ'
        rw [List.foldl_cons, List.length_cons, power]
        rwa [Nat.mul_assoc] at grown
  have grown := bound 0 1 (by decide)
  rwa [Nat.one_mul] at grown

theorem decodeEscape_itself {c : Char} (stands : StandsForItself c) :
    decodeEscape ['\\', c] = .ok [.scalar c] := by
  obtain ⟨_, _, notOctal, notLineEnd, notListed⟩ := stands
  have noBreak : lineBreaks.contains [c] = false := by
    simpa [lineBreaks] using notLineEnd
  have plain : simpleEscape? [c] = none := by
    have notNull : c ≠ '0' := by
      rintro rfl
      exact notOctal (by decide)
    simp only [singleEscapes, List.map_cons, List.mem_cons, not_or] at notListed
    unfold simpleEscape?
    split <;> simp_all
  simp only [decodeEscape, List.drop_succ_cons, List.drop_zero, noBreak, plain]
  rfl

/-- An escape sequence is decoded to a text with the units that it stands for. -/
theorem exists_decodeEscape {body : List Char} {value : List Nat}
    (sequence : EscapeValue body value) :
    ∃ text, decodeEscape ('\\' :: body) = .ok text ∧ textUnits text = value := by
  cases sequence with
  | lineEnd ends =>
      refine ⟨[], ?_, rfl⟩
      have all : ∀ body ∈ lineEnds, decodeEscape ('\\' :: body) = .ok [] := by
        simp [lineEnds, decodeEscape, lineBreaks]
      exact all body ends
  | null => exact ⟨[.scalar '\x00'], rfl, rfl⟩
  | single listed =>
      rename_i c unit
      have all : ∀ listed ∈ singleEscapes,
          decodeEscape ['\\', listed.1] = .ok [.scalar (Char.ofNat listed.2)] ∧
            unitsOf (Char.ofNat listed.2).toNat = [listed.2] := by decide
      obtain ⟨decoded, units⟩ := all (c, unit) listed
      exact ⟨_, decoded, (List.append_nil _).trans units⟩
  | itself stands => exact ⟨_, decodeEscape_itself stands, List.append_nil _⟩
  | twoDigits digits =>
      rename_i a b
      have small := numeral_lt digits
      obtain ⟨codePoint, decoded, number⟩ :=
        decodeNumber_of_hexDigits (List.cons_ne_nil a [b]) digits (by simp at small; omega)
      rw [← stripBraces_of_hexDigits digits] at decoded
      refine ⟨[codePoint], decodeEscape_number (Or.inr rfl) decoded, ?_⟩
      rw [textUnits_cons, number, unitsOf, if_pos (by simp at small; omega)]
      rfl
  | fourDigits digits =>
      rename_i a b c d
      have small := numeral_lt digits
      obtain ⟨codePoint, decoded, number⟩ :=
        decodeNumber_of_hexDigits (List.cons_ne_nil a [b, c, d]) digits (by simp at small; omega)
      rw [← stripBraces_of_hexDigits digits] at decoded
      refine ⟨[codePoint], decodeEscape_number (Or.inl rfl) decoded, ?_⟩
      rw [textUnits_cons, number, unitsOf, if_pos (by simp at small; omega)]
      rfl
  | braces nonempty digits valid =>
      rename_i digits'
      obtain ⟨codePoint, decoded, number⟩ := decodeNumber_of_hexDigits nonempty digits valid
      rw [← stripBraces_braced digits'] at decoded
      refine ⟨[codePoint], decodeEscape_number (Or.inl rfl) decoded, ?_⟩
      rw [textUnits_cons, number, textUnits_nil, List.append_nil]

/-- The digits of a number in braces end at the closing brace. -/
theorem takeWhile_isHexDigit_append {digits : List Char}
    (hex : ∀ digit ∈ digits, digit ∈ hexDigits) (rest : List Char) :
    (digits ++ '}' :: rest).takeWhile isHexDigit = digits := by
  have all : ∀ digit ∈ digits, isHexDigit digit = true :=
    fun digit known => isHexDigit_of_mem (hex digit known)
  rw [List.takeWhile_append_of_pos all, List.takeWhile_cons_of_neg (by decide), List.append_nil]

/-- Behind a backslash most characters stand alone. -/
theorem escapeLength?_one {c : Char} (notByte : c ≠ 'x') (notUnit : c ≠ 'u')
    (notOctal : isOctalDigit c = false) {rest : List Char}
    (before : c = '\r' → rest.head? ≠ some '\n') : escapeLength? (c :: rest) = some 1 := by
  unfold escapeLength?
  split <;> simp_all

theorem escapeLength?_null {rest : List Char} (before : ∀ c ∈ rest.head?, c.isDigit = false) :
    escapeLength? ('0' :: rest) = some 1 := by
  have alone : (rest.take 2).takeWhile isOctalDigit = [] := by
    cases rest with
    | nil => rfl
    | cons c rest =>
        have notDigit : c.isDigit = false := before c rfl
        have notOctal : ¬ isOctalDigit c = true := by
          intro octal
          simp only [isOctalDigit, Bool.and_eq_true, decide_eq_true_eq] at octal
          have digit : c.isDigit = true := by
            simp only [Char.isDigit, Bool.and_eq_true, decide_eq_true_eq]
            exact ⟨octal.1, UInt32.le_trans octal.2 (by decide)⟩
          simp [notDigit] at digit
        exact List.takeWhile_cons_of_neg notOctal
  simp [escapeLength?, isOctalDigit, alone]

theorem escapeLength?_fourDigits {a b c d : Char}
    (digits : ∀ digit ∈ [a, b, c, d], digit ∈ hexDigits) (rest : List Char) :
    escapeLength? ('u' :: a :: b :: c :: d :: rest) = some 5 := by
  have hexA := isHexDigit_of_mem (digits a (by simp))
  have hexB := isHexDigit_of_mem (digits b (by simp))
  have hexC := isHexDigit_of_mem (digits c (by simp))
  have hexD := isHexDigit_of_mem (digits d (by simp))
  have notBrace : a ≠ '{' := by
    rintro rfl
    exact absurd hexA (by decide)
  rw [escapeLength?]
  · simp [hexA, hexB, hexC, hexD]
  · simpa using notBrace

theorem escapeLength?_braces {number : List Char} (nonempty : number ≠ [])
    (digits : ∀ digit ∈ number, digit ∈ hexDigits) (rest : List Char) :
    escapeLength? ('u' :: '{' :: (number ++ '}' :: rest)) = some (number.length + 3) := by
  obtain ⟨first, more, rfl⟩ := List.exists_cons_of_ne_nil nonempty
  rw [escapeLength?, takeWhile_isHexDigit_append digits, List.drop_left]
  rfl

/-- An escape sequence is as long as the grammar says. -/
theorem escapeLength?_append {body : List Char} {value : List Nat}
    (sequence : EscapeValue body value) {rest : List Char} (before : MayPrecede body rest) :
    escapeLength? (body ++ rest) = some body.length := by
  cases sequence with
  | lineEnd ends =>
      by_cases both : body = ['\r', '\n']
      · rw [both]
        rfl
      · obtain ⟨c, rfl, notByte, notUnit, notOctal⟩ :
            ∃ c, body = [c] ∧ c ≠ 'x' ∧ c ≠ 'u' ∧ isOctalDigit c = false := by
          simp only [lineEnds, List.mem_cons, both, false_or, List.not_mem_nil, or_false] at ends
          rcases ends with rfl | rfl | rfl | rfl
          all_goals exact ⟨_, rfl, by decide, by decide, by decide⟩
        exact escapeLength?_one notByte notUnit notOctal fun isReturn => before.2 (by rw [isReturn])
  | null => exact escapeLength?_null (before.1 rfl)
  | single listed =>
      rename_i c unit
      have all : ∀ listed ∈ singleEscapes, listed.1 ≠ 'x' ∧ listed.1 ≠ 'u' ∧
          isOctalDigit listed.1 = false ∧ listed.1 ≠ '\r' := by decide
      obtain ⟨notByte, notUnit, notOctal, notReturn⟩ := all (c, unit) listed
      exact escapeLength?_one notByte notUnit notOctal fun isReturn => absurd isReturn notReturn
  | itself stands =>
      rename_i c
      obtain ⟨notByte, notUnit, notOctal, notLineEnd, _⟩ := stands
      have notReturn : c ≠ '\r' := by
        rintro rfl
        simp at notLineEnd
      apply escapeLength?_one notByte notUnit
      · simpa [isOctalDigit] using notOctal
      · intro isReturn
        exact absurd isReturn notReturn
  | twoDigits digits =>
      rename_i a b
      have hexA := isHexDigit_of_mem (digits a (by simp))
      have hexB := isHexDigit_of_mem (digits b (by simp))
      simp [escapeLength?, hexA, hexB]
  | fourDigits digits => exact escapeLength?_fourDigits digits rest
  | braces nonempty digits valid =>
      rename_i number
      have length := escapeLength?_braces nonempty digits rest
      simpa using length

/-!
### Literals
-/

/-- A quote is no digit and ends no line. -/
def IsQuote (quote : Char) : Prop := quote = '\'' ∨ quote = '"'

section
variable {quote : Char} {text : List Char} {pieces : List Piece} {units : List Nat}

/-- What follows an escape sequence may also do so when the closing quote stands behind it. -/
theorem mayPrecede_append {body : List Char} (isQuote : IsQuote quote)
    (before : MayPrecede body text) (after : List Char) :
    MayPrecede body (text ++ quote :: after) := by
  cases text with
  | cons c text => exact before
  | nil =>
      rcases isQuote with rfl | rfl
      · exact ⟨fun _ => by simp, fun _ => by simp⟩
      · exact ⟨fun _ => by simp, fun _ => by simp⟩

/-- Reading a literal cuts it into its pieces and ends behind the closing quote. -/
theorem readPieces?_of_literalValue (isQuote : IsQuote quote)
    (literal : LiteralValue quote text pieces units) (after : List Char) :
    readPieces? quote (text ++ quote :: after) = some (pieces, after) := by
  induction literal with
  | empty => rw [List.nil_append, readPieces?, if_pos rfl]
  | plain stands more ih =>
      obtain ⟨notQuote, notBackslash, notFeed, notReturn⟩ := stands
      rw [List.cons_append, readPieces?, if_neg notQuote, if_neg notBackslash,
        if_neg (not_or.2 ⟨notFeed, notReturn⟩), ih]
      rfl
  | escape sequence before more ih =>
      rename_i body text value units pieces
      have notQuote : '\\' ≠ quote := by
        rcases isQuote with rfl | rfl
        · decide
        · decide
      have length := escapeLength?_append sequence (mayPrecede_append isQuote before after)
      rw [List.cons_append, List.append_assoc, readPieces?, if_neg notQuote, if_pos rfl]
      simp only [length, List.drop_left, List.take_left, ih]
      rfl

/-- The texts of pieces, one after another. -/
def decodePieces (pieces : List Piece) : Except EscapeFault Text :=
  (pieces.mapM Piece.decode).map List.flatten

theorem valueOf_eq (pieces : List Piece) :
    valueOf pieces = (decodePieces pieces).map joinPairs := by
  unfold valueOf decodePieces
  cases pieces.mapM Piece.decode with
  | error fault => rfl
  | ok texts => rfl

/-- Pieces are decoded when the first one and the others are. -/
theorem decodePieces_cons_eq_ok_iff {piece : Piece} {pieces : List Piece} {text : Text} :
    decodePieces (piece :: pieces) = .ok text ↔
      ∃ first rest, piece.decode = .ok first ∧ decodePieces pieces = .ok rest ∧
        first ++ rest = text := by
  unfold decodePieces
  rw [List.mapM_cons]
  cases piece.decode with
  | error fault => simp [bind, Except.bind, Except.map]
  | ok first =>
      cases pieces.mapM Piece.decode with
      | error fault => simp [bind, Except.bind, Except.map]
      | ok texts => simp [bind, Except.bind, Except.map, pure, Except.pure]

/-- A plain character in front of pieces stands in front of their texts. -/
theorem decodePieces_push {c : Char} {pieces : List Piece} {text : Text}
    (decoded : decodePieces pieces = .ok text) :
    decodePieces (Piece.push c pieces) = .ok (.scalar c :: text) := by
  have alone : (Piece.plain [c]).decode = .ok [.scalar c] := rfl
  unfold Piece.push
  split
  · rename_i plain pieces
    obtain ⟨first, rest, decoded', more, rfl⟩ := decodePieces_cons_eq_ok_iff.1 decoded
    cases decoded'
    exact decodePieces_cons_eq_ok_iff.2 ⟨Text.ofChars (c :: plain), rest, rfl, more, rfl⟩
  · exact decodePieces_cons_eq_ok_iff.2 ⟨_, _, alone, decoded, rfl⟩

/-- The pieces of a literal are decoded to texts with the units that the literal stands for. -/
theorem exists_decodePieces (literal : LiteralValue quote text pieces units) :
    ∃ value, decodePieces pieces = .ok value ∧ textUnits value = units := by
  induction literal with
  | empty => exact ⟨[], rfl, rfl⟩
  | plain stands more ih =>
      obtain ⟨value, decoded, same⟩ := ih
      refine ⟨_, decodePieces_push decoded, ?_⟩
      rw [textUnits_cons, same, CodePoint.value]
  | escape sequence before more ih =>
      obtain ⟨value, decoded, same⟩ := ih
      obtain ⟨first, decoded', same'⟩ := exists_decodeEscape sequence
      refine ⟨_, decodePieces_cons_eq_ok_iff.2 ⟨first, value, decoded', decoded, rfl⟩, ?_⟩
      rw [textUnits_append, same, same']

/-- The value of a literal has the units that the literal stands for, and no pair apart. -/
theorem exists_valueOf (literal : LiteralValue quote text pieces units) :
    ∃ value, valueOf pieces = .ok value ∧ textUnits value = units ∧ Unpaired value := by
  obtain ⟨value, decoded, same⟩ := exists_decodePieces literal
  refine ⟨joinPairs value, ?_, ?_, unpaired_joinPairs value⟩
  · rw [valueOf_eq, decoded]
    rfl
  · rw [textUnits_joinPairs, same]

/-- A literal between single or double quotes is cut into the pieces of the grammar, whatever
follows it, and the value of a node with these pieces has exactly the units that the language gives
the literal. Two halves of a pair that come to stand side by side, wherever they come from, are one
character of the value. -/
theorem literal_means_its_value (isQuote : IsQuote quote)
    (literal : LiteralValue quote text pieces units) (after : List Char) :
    readPieces? quote (text ++ quote :: after) = some (pieces, after) ∧
      ∃ value, textUnits value = units ∧ Unpaired value ∧
        ∀ (source : Script.Source) (node : Script.Node),
          Replacement.literalPieces source node = pieces →
            Replacement.literalValue source node = .ok value := by
  refine ⟨readPieces?_of_literalValue isQuote literal after, ?_⟩
  obtain ⟨value, decoded, same, unpaired⟩ := exists_valueOf literal
  refine ⟨value, same, unpaired, ?_⟩
  intro source node cut
  rw [Replacement.literalValue, cut, decoded]

end

/-- The text of a literal whose halves of pairs come from several escape sequences. -/
def mixedText : List Char :=
  ['\\', 'x', '4', '1', '\\', 'u', 'D', '8', '3', 'd', '\\', 'u', '{', '0', '0', 'D', 'E', '0', '0',
    '}', '\\', 'u', 'd', '8', '0', '0', '\\', '\r', '\n', '\\', '0', '😀', '\\', '\'']

/-- Its pieces. -/
def mixedPieces : List Piece :=
  [.escape ['\\', 'x', '4', '1'], .escape ['\\', 'u', 'D', '8', '3', 'd'],
    .escape ['\\', 'u', '{', '0', '0', 'D', 'E', '0', '0', '}'],
    .escape ['\\', 'u', 'd', '8', '0', '0'], .escape ['\\', '\r', '\n'], .escape ['\\', '0'],
    .plain ['😀'], .escape ['\\', '\'']]

/-- Its units. -/
def mixedUnits : List Nat := [0x41, 0xD83D, 0xDE00, 0xD800, 0, 0xD83D, 0xDE00, 0x27]

theorem mixed_literalValue : LiteralValue '\'' mixedText mixedPieces mixedUnits := by
  have quote : LiteralValue '\'' ['\\', '\''] [.escape ['\\', '\'']] [0x27] :=
    .escape (.single (by decide)) (by simp [MayPrecede]) .empty
  have smile := LiteralValue.plain (by simp [StandsBetween] : StandsBetween '\'' '😀') quote
  have null := LiteralValue.escape .null (by simp [MayPrecede]) smile
  have lines := @LiteralValue.escape _ ['\r', '\n'] _ _ _ _ (.lineEnd (by decide))
    (by simp [MayPrecede]) null
  have hex : ∀ {digits : List Char}, digits.all (hexDigits.contains ·) = true →
      ∀ digit ∈ digits, digit ∈ hexDigits :=
    fun all digit known => List.contains_iff_mem.1 (List.all_eq_true.1 all digit known)
  have lone := LiteralValue.escape (@EscapeValue.fourDigits 'd' '8' '0' '0' (hex (by decide)))
    (by simp [MayPrecede]) lines
  have low := LiteralValue.escape (@EscapeValue.braces ['0', '0', 'D', 'E', '0', '0'] (by decide)
    (hex (by decide)) (by decide)) (by simp [MayPrecede]) lone
  have high := LiteralValue.escape (@EscapeValue.fourDigits 'D' '8' '3' 'd' (hex (by decide)))
    (by simp [MayPrecede]) low
  exact LiteralValue.escape (@EscapeValue.twoDigits '4' '1' (hex (by decide)))
    (by simp [MayPrecede]) high

/-- The two halves that stand side by side are one character; the one behind them stays alone. -/
theorem mixed_means_its_value :
    readPieces? '\'' (mixedText ++ '\'' :: [';']) = some (mixedPieces, [';']) ∧
      ∃ value, textUnits value = mixedUnits ∧ Unpaired value ∧
        ∀ (source : Script.Source) (node : Script.Node),
          Replacement.literalPieces source node = mixedPieces →
            Replacement.literalValue source node = .ok value :=
  literal_means_its_value (Or.inl rfl) mixed_literalValue [';']

end ModuleAlias.Literal
