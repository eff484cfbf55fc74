/-
Module: ModuleAlias.Proofs.Script.Lexemes
Purpose: The symbols that a text is made of: words, string literals and punctuators, with white
  space between them. A word reaches up to a character that cannot be part of it and a literal up to
  its closing quote, so a text spells one list of symbols at most.
Imports: ModuleAlias.Proofs.Literal.StringValue, ModuleAlias.Script.Reader
Main exports: Script.IsIdentifierName, Script.IsBindingIdentifier, Script.IsStringLiteral,
  Script.Symbol, Script.Spells, Script.Spells.unique
-/
import ModuleAlias.Proofs.Literal.StringValue
import ModuleAlias.Script.Reader

namespace ModuleAlias.Script

/-!
### Words
-/

/-- What stands behind the first characters of a word: characters that may be part of it, and
characters written by their number. -/
inductive IsNameTail : List Char → Prop
  | nil : IsNameTail []
  | char {c : Char} {more : List Char} (part : isWordChar c = true) (tail : IsNameTail more) :
      IsNameTail (c :: more)
  | digits {a b c d : Char} {more : List Char}
      (hexadecimal : ∀ digit ∈ [a, b, c, d], digit ∈ Literal.hexDigits) (tail : IsNameTail more) :
      IsNameTail ('\\' :: 'u' :: a :: b :: c :: d :: more)
  | braces {number more : List Char}
      (hexadecimal : ∀ digit ∈ number, digit ∈ Literal.hexDigits) (tail : IsNameTail more) :
      IsNameTail ('\\' :: 'u' :: '{' :: (number ++ '}' :: more))

/-- A word that names something is not empty and does not begin with a digit. -/
structure IsIdentifierName (word : List Char) : Prop where
  nonempty : word ≠ []
  noDigit : ∀ c ∈ word.head?, c.isDigit = false
  tail : IsNameTail word

/-- A word without escapes. -/
theorem isIdentifierName_of_isWordChar {word : List Char}
    (begins : word.head?.any (!·.isDigit) = true) (parts : word.all isWordChar = true) :
    IsIdentifierName word := by
  cases word with
  | nil => cases begins
  | cons c word =>
      refine ⟨List.cons_ne_nil c word, ?_, ?_⟩
      · rintro _ ⟨⟩
        simpa using begins
      · clear begins
        generalize c :: word = word at parts
        induction word with
        | nil => exact .nil
        | cons c word ih =>
            rw [List.all_cons, Bool.and_eq_true] at parts
            exact .char parts.1 (ih parts.2)

/-- A word ends before what cannot be part of it. -/
def EndsWord (rest : List Char) : Prop :=
  ∀ c ∈ rest.head?, isWordChar c = false ∧ c ≠ '\\'

theorem endsWord_cons {c : Char} (apart : isWordChar c = false) (other : c ≠ '\\')
    (rest : List Char) : EndsWord (c :: rest) := by
  rintro _ ⟨⟩
  exact ⟨apart, other⟩

/-- A digit is part of a word, and neither brace. -/
theorem isWordChar_of_mem_hexDigits {c : Char} (digit : c ∈ Literal.hexDigits) :
    isWordChar c = true ∧ c ≠ '{' ∧ c ≠ '}' ∧ c ≠ '\\' := by
  have all : (Literal.hexDigits.all fun c =>
      isWordChar c && c != '{' && c != '}' && c != '\\') = true := by decide
  simpa [and_assoc] using List.all_eq_true.1 all c digit

/-- No escape begins at a character other than a backslash. -/
theorem wordAt_cons {c : Char} (other : c ≠ '\\') (braced : Bool) (rest : List Char) :
    wordAt braced (c :: rest) =
      if braced then c :: wordAt (c != '}') rest
      else if isWordChar c then c :: wordAt false rest
      else [] := by
  rw [wordAt]
  · rintro _ rfl
    exact absurd rfl other
  · rintro _ rfl
    exact absurd rfl other

theorem wordAt_of_isWordChar {c : Char} (part : isWordChar c = true) (rest : List Char) :
    wordAt false (c :: rest) = c :: wordAt false rest := by
  have other : c ≠ '\\' := by
    rintro rfl
    revert part
    decide
  rw [wordAt_cons other, if_neg Bool.false_ne_true, if_pos part]

theorem wordAt_nil_of_endsWord {rest : List Char} (ends : EndsWord rest) :
    wordAt false rest = [] := by
  cases rest with
  | nil => rfl
  | cons c rest =>
      obtain ⟨apart, other⟩ := ends c rfl
      rw [wordAt_cons other, if_neg Bool.false_ne_true, apart, if_neg Bool.false_ne_true]

/-- The digits in braces are read up to the closing brace. -/
theorem wordAt_number {number : List Char}
    (hexadecimal : ∀ digit ∈ number, digit ∈ Literal.hexDigits) (rest : List Char) :
    wordAt true (number ++ '}' :: rest) = number ++ '}' :: wordAt false rest := by
  induction number with
  | nil =>
      rw [List.nil_append, wordAt_cons (by decide), if_pos rfl]
      rfl
  | cons digit number ih =>
      obtain ⟨first, others⟩ := List.forall_mem_cons.1 hexadecimal
      obtain ⟨-, -, notClosing, notBackslash⟩ := isWordChar_of_mem_hexDigits first
      rw [List.cons_append, wordAt_cons notBackslash, if_pos rfl, bne_iff_ne.2 notClosing,
        ih others, List.cons_append]

/-- A word is read whole before what ends it. -/
theorem wordAt_append {word rest : List Char} (name : IsNameTail word) (ends : EndsWord rest) :
    wordAt false (word ++ rest) = word := by
  induction name with
  | nil => exact wordAt_nil_of_endsWord ends
  | char part _ ih => rw [List.cons_append, wordAt_of_isWordChar part, ih]
  | @digits a b c d more hexadecimal _ ih =>
      have part := fun digit known => (isWordChar_of_mem_hexDigits (hexadecimal digit known))
      have notBrace : a ≠ '{' := (part a (by simp)).2.1
      simp only [List.cons_append]
      rw [wordAt]
      · simp only [Bool.false_eq_true, if_false]
        rw [wordAt_of_isWordChar (part a (by simp)).1, wordAt_of_isWordChar (part b (by simp)).1,
          wordAt_of_isWordChar (part c (by simp)).1, wordAt_of_isWordChar (part d (by simp)).1, ih]
      · rintro _ same
        exact notBrace (List.cons.inj same).1
  | @braces number more hexadecimal _ ih =>
      simp only [List.cons_append, List.append_assoc]
      rw [wordAt, if_neg Bool.false_ne_true, wordAt_number hexadecimal, ih]

/-- Two words that begin one text, each up to where it ends, are one word. -/
theorem IsIdentifierName.eq_of_append_eq {word word' rest rest' : List Char}
    (name : IsIdentifierName word) (ends : EndsWord rest) (name' : IsIdentifierName word')
    (ends' : EndsWord rest') (same : word ++ rest = word' ++ rest') : word = word' := by
  have read := wordAt_append name.tail ends
  rw [same, wordAt_append name'.tail ends'] at read
  exact read.symm

/-- A word that can name a variable. -/
structure IsBindingIdentifier (word : List Char) : Prop where
  name : IsIdentifierName word
  free : Reader.isName (String.ofList word) = true

/-!
### String literals
-/

/-- A text is a string literal of the language, with its quotes. -/
def IsStringLiteral (literal : List Char) : Prop :=
  ∃ quote inner pieces units, literal = quote :: (inner ++ [quote]) ∧ Literal.IsQuote quote ∧
    Literal.LiteralValue quote inner pieces units

/-- A literal without escapes. -/
theorem isStringLiteral_of_standsBetween {quote : Char} {inner : List Char}
    (isQuote : Literal.IsQuote quote) (plain : ∀ c ∈ inner, Literal.StandsBetween quote c) :
    IsStringLiteral (quote :: (inner ++ [quote])) := by
  have value : ∃ pieces units, Literal.LiteralValue quote inner pieces units := by
    induction inner with
    | nil => exact ⟨_, _, .empty⟩
    | cons c inner ih =>
        obtain ⟨first, others⟩ := List.forall_mem_cons.1 plain
        obtain ⟨pieces, units, more⟩ := ih others
        exact ⟨_, _, .plain first more⟩
  obtain ⟨pieces, units, value⟩ := value
  exact ⟨quote, inner, pieces, units, rfl, isQuote, value⟩

/-- Two literals that begin one text are one literal: the first quote tells the kind, and the next
one that is not part of an escape closes it. -/
theorem IsStringLiteral.eq_of_append_eq {literal literal' rest rest' : List Char}
    (valid : IsStringLiteral literal) (valid' : IsStringLiteral literal')
    (same : literal ++ rest = literal' ++ rest') : literal = literal' := by
  obtain ⟨quote, inner, pieces, units, rfl, isQuote, value⟩ := valid
  obtain ⟨quote', inner', pieces', units', rfl, -, value'⟩ := valid'
  simp only [List.cons_append, List.append_assoc, List.nil_append, List.cons.injEq] at same
  obtain ⟨rfl, same⟩ := same
  have read := Literal.readPieces?_of_literalValue isQuote value rest
  rw [same, Literal.readPieces?_of_literalValue isQuote value' rest'] at read
  cases read
  rw [List.append_cancel_right same]

/-!
### Symbols
-/

/-- A symbol of a pattern: a word, a string literal, a punctuator of one character, or the three
dots before what is left over. -/
inductive Symbol where
  | word (spelling : String)
  | string (literal : String)
  | mark (c : Char)
  | dots

namespace Symbol

/-- The characters of a symbol. -/
def chars : Symbol → List Char
  | word spelling => spelling.toList
  | string literal => literal.toList
  | mark c => [c]
  | dots => ['.', '.', '.']

/-- The punctuators of one character. -/
def marks : List Char := ['\x7b', '\x7d', '[', ']', ',', ':']

/-- A symbol stands before the rest of a text: it is spelled as the language wants it, and a word
does not go on in the rest. -/
def StandsBefore (rest : List Char) : Symbol → Prop
  | word spelling => IsIdentifierName spelling.toList ∧ EndsWord rest
  | string literal => IsStringLiteral literal.toList
  | mark c => c ∈ marks
  | dots => True

end Symbol

/-- White space and line terminators. -/
def whiteSpace : List Char :=
  ['\t', '\n', '\x0b', '\x0c', '\r', ' ', '\u00a0', '\u1680', '\u2000', '\u2001', '\u2002',
    '\u2003', '\u2004', '\u2005', '\u2006', '\u2007', '\u2008', '\u2009', '\u200a', '\u2028',
    '\u2029', '\u202f', '\u205f', '\u3000', '\ufeff']

/-- A text spells symbols, with white space around them. -/
inductive Spells : List Char → List Symbol → Prop
  | done : Spells [] []
  | blank {c : Char} {text : List Char} {symbols : List Symbol} (isBlank : c ∈ whiteSpace)
      (more : Spells text symbols) : Spells (c :: text) symbols
  | symbol {symbol : Symbol} {rest : List Char} {symbols : List Symbol}
      (stands : symbol.StandsBefore rest) (more : Spells rest symbols) :
      Spells (symbol.chars ++ rest) (symbol :: symbols)

section
variable {rest : List Char} {symbols : List Symbol}

theorem Spells.word {spelling : String} (name : IsIdentifierName spelling.toList)
    (ends : EndsWord rest) (more : Spells rest symbols) :
    Spells (spelling.toList ++ rest) (.word spelling :: symbols) :=
  @Spells.symbol (.word spelling) rest symbols ⟨name, ends⟩ more

theorem Spells.string {literal : String} (valid : IsStringLiteral literal.toList)
    (more : Spells rest symbols) : Spells (literal.toList ++ rest) (.string literal :: symbols) :=
  @Spells.symbol (.string literal) rest symbols valid more

theorem Spells.mark {c : Char} (isMark : c ∈ Symbol.marks) (more : Spells rest symbols) :
    Spells (c :: rest) (.mark c :: symbols) :=
  @Spells.symbol (.mark c) rest symbols isMark more

theorem Spells.space (more : Spells rest symbols) : Spells (' ' :: rest) symbols :=
  .blank (by decide) more

end

/-!
### One spelling

The first character of a symbol tells its kind, and it is no white space. So the symbols of a text
are found one after another from its beginning.
-/

/-- A word begins neither like another symbol nor like white space. -/
theorem IsNameTail.head {c : Char} {more : List Char} (name : IsNameTail (c :: more)) :
    c ∉ '"' :: '\'' :: '.' :: (Symbol.marks ++ whiteSpace) := by
  cases name with
  | char part _ =>
      have apart : (('"' :: '\'' :: '.' :: (Symbol.marks ++ whiteSpace)).all
          fun c => !isWordChar c) = true := by decide
      intro known
      have other := List.all_eq_true.1 apart c known
      rw [part] at other
      cases other
  | digits _ _ => decide
  | braces _ _ => decide

/-- The kinds of symbols. -/
inductive SymbolKind where
  | word
  | string
  | mark
  | dots

namespace Symbol

/-- The kind of a symbol. -/
def kind : Symbol → SymbolKind
  | word _ => .word
  | string _ => .string
  | mark _ => .mark
  | dots => .dots

/-- The kind of the symbols that begin with a character. -/
def kindOfFirst (c : Char) : SymbolKind :=
  if c ∈ ['"', '\''] then .string
  else if c ∈ marks then .mark
  else if c = '.' then .dots
  else .word

section
variable {symbol symbol' : Symbol} {rest rest' : List Char}

theorem StandsBefore.exists_first (stands : symbol.StandsBefore rest) :
    ∃ c more, symbol.chars = c :: more ∧ c ∉ whiteSpace ∧ symbol.kind = kindOfFirst c := by
  cases symbol with
  | word spelling =>
      obtain ⟨⟨nonempty, _, tail⟩, _⟩ := stands
      obtain ⟨c, more, begins⟩ := List.exists_cons_of_ne_nil nonempty
      rw [begins] at tail
      have apart := tail.head
      simp only [List.mem_cons, List.mem_append, not_or] at apart
      obtain ⟨double, single, dot, noMark, noBlank⟩ := apart
      refine ⟨c, more, begins, noBlank, ?_⟩
      rw [kind, kindOfFirst, if_neg (by simp [double, single]), if_neg noMark, if_neg dot]
  | string literal =>
      obtain ⟨quote, inner, pieces, units, begins, isQuote, _⟩ := stands
      rcases isQuote with rfl | rfl
      · exact ⟨_, _, begins, by decide, rfl⟩
      · exact ⟨_, _, begins, by decide, rfl⟩
  | mark c =>
      have isMark : c ∈ marks := stands
      have apart : (marks.all fun c => c ∉ whiteSpace ∧ c ∉ ['"', '\'']) = true := by decide
      obtain ⟨noBlank, noQuote⟩ := of_decide_eq_true (List.all_eq_true.1 apart c isMark)
      refine ⟨c, [], rfl, noBlank, ?_⟩
      rw [kind, kindOfFirst, if_neg noQuote, if_pos isMark]
  | dots => exact ⟨'.', ['.', '.'], rfl, by decide, rfl⟩

/-- Symbols that begin one text are one symbol. -/
theorem StandsBefore.eq_of_append_eq (stands : symbol.StandsBefore rest)
    (stands' : symbol'.StandsBefore rest') (same : symbol.chars ++ rest = symbol'.chars ++ rest') :
    symbol = symbol' := by
  obtain ⟨c, more, begins, _, kindOf⟩ := stands.exists_first
  obtain ⟨c', more', begins', _, kindOf'⟩ := stands'.exists_first
  have first : c = c' := by
    rw [begins, begins'] at same
    exact (List.cons.inj same).1
  have alike : symbol.kind = symbol'.kind := by rw [kindOf, kindOf', first]
  cases symbol with
  | word spelling =>
      cases symbol' with
      | word spelling' =>
          exact congrArg word (String.toList_injective
            (stands.1.eq_of_append_eq stands.2 stands'.1 stands'.2 same))
      | _ => cases alike
  | string literal =>
      cases symbol' with
      | string literal' =>
          have valid : IsStringLiteral literal.toList := stands
          exact congrArg string (String.toList_injective (valid.eq_of_append_eq stands' same))
      | _ => cases alike
  | mark d =>
      cases symbol' with
      | mark d' =>
          have whole : d :: rest = d' :: rest' := same
          exact congrArg mark (List.cons.inj whole).1
      | _ => cases alike
  | dots =>
      cases symbol' with
      | dots => rfl
      | _ => cases alike

end

end Symbol

/-- A text spells one list of symbols at most. -/
theorem Spells.unique {text : List Char} {symbols symbols' : List Symbol}
    (spells : Spells text symbols) (spells' : Spells text symbols') : symbols = symbols' := by
  induction spells generalizing symbols' with
  | done =>
      generalize whole : [] = text at spells'
      cases spells' with
      | done => rfl
      | blank isBlank more => cases whole
      | symbol stands more =>
          obtain ⟨c, others, begins, _⟩ := stands.exists_first
          rw [begins] at whole
          cases whole
  | @blank c text symbols isBlank more ih =>
      generalize whole : c :: text = text' at spells'
      cases spells' with
      | done => cases whole
      | blank _ more' =>
          cases whole
          exact ih more'
      | symbol stands more' =>
          obtain ⟨c', others, begins, noBlank, _⟩ := stands.exists_first
          rw [begins] at whole
          cases whole
          exact absurd isBlank noBlank
  | @symbol symbol rest symbols stands more ih =>
      generalize whole : symbol.chars ++ rest = text' at spells'
      obtain ⟨c, others, begins, noBlank, _⟩ := stands.exists_first
      cases spells' with
      | done =>
          rw [begins] at whole
          cases whole
      | blank isBlank more' =>
          rw [begins] at whole
          cases whole
          exact absurd isBlank noBlank
      | symbol stands' more' =>
          obtain rfl := stands.eq_of_append_eq stands' whole
          obtain rfl := List.append_cancel_left whole
          rw [ih more']

end ModuleAlias.Script
