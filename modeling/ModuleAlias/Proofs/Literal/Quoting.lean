/-
Module: ModuleAlias.Proofs.Literal.Quoting
Purpose: A text written between quotes stays between them. Backslashes are put in by two passes over
  the whole text; together they come to one pass from left to right, which a scanner undoes that
  knows nothing of escape sequences but that a backslash takes the character behind it along. The
  scanner meets the closing quote at the end and nowhere before, and the pieces that it passed are
  decoded to the text.
Imports: ModuleAlias.Proofs.Literal.StringValue
Main exports: Literal.scan, Literal.quoted_ofChars, Literal.scan_written,
  Literal.literalValue_written, Literal.quoted_reads_back
-/
import ModuleAlias.Proofs.Literal.StringValue

namespace ModuleAlias.Literal

/-!
### One pass from left to right
-/

/-- Escaping every occurrence of one code point puts a backslash before each. -/
theorem escapeEvery_singleton (mark : CodePoint) (text : Text) :
    escapeEvery [mark] 0 text =
      text.flatMap fun codePoint =>
        if codePoint = mark then [backslash, codePoint] else [codePoint] := by
  induction text with
  | nil => simp [escapeEvery]
  | cons codePoint rest ih =>
      rw [escapeEvery, List.flatMap_cons]
      by_cases marked : codePoint = mark
      · simp [marked, ih]
      · simp [marked, Ne.symm marked, ih]

/-- What is written for a character between quotes of a kind. -/
def writtenChar (quote c : Char) : List Char :=
  if c = '\\' ∨ c = quote then ['\\', c] else [c]

/-- What is written for characters between quotes of a kind. -/
def written (quote : Char) (value : List Char) : List Char := value.flatMap (writtenChar quote)

section
variable {quote : Char}

theorem IsQuote.ne_backslash (isQuote : IsQuote quote) : quote ≠ '\\' := by
  rcases isQuote with rfl | rfl
  · decide
  · decide

theorem written_cons_of_marked {c : Char} (marked : c = '\\' ∨ c = quote) (value : List Char) :
    written quote (c :: value) = '\\' :: c :: written quote value := by
  rw [written, List.flatMap_cons, writtenChar, if_pos marked]
  rfl

theorem written_cons_of_plain {c : Char} (plain : ¬ (c = '\\' ∨ c = quote)) (value : List Char) :
    written quote (c :: value) = c :: written quote value := by
  rw [written, List.flatMap_cons, writtenChar, if_neg plain]
  rfl

/-- The pass for backslashes and, behind it, the pass for quotes come to one pass: the second one
leaves the backslashes of the first alone, since no quote is a backslash. -/
theorem escapeEvery_escapeEvery_ofChars (isQuote : IsQuote quote) (value : List Char) :
    escapeEvery [.scalar quote] 0 (escapeEvery [backslash] 0 (Text.ofChars value)) =
      Text.ofChars (written quote value) := by
  have notQuote : '\\' ≠ quote := Ne.symm isQuote.ne_backslash
  rw [escapeEvery_singleton, escapeEvery_singleton]
  induction value with
  | nil => rfl
  | cons c value ih =>
      have both : Text.ofChars (c :: value) = .scalar c :: Text.ofChars value := rfl
      rw [both, List.flatMap_cons, List.flatMap_append, ih]
      by_cases isBackslash : c = '\\'
      · rw [written_cons_of_marked (Or.inl isBackslash)]
        simp [backslash, isBackslash, notQuote, Text.ofChars]
      · by_cases isQuote' : c = quote
        · rw [written_cons_of_marked (Or.inr isQuote')]
          simp [backslash, isQuote', isQuote.ne_backslash, Text.ofChars]
        · rw [written_cons_of_plain (not_or.2 ⟨isBackslash, isQuote'⟩)]
          simp [backslash, isBackslash, isQuote', Text.ofChars]

theorem quoted_ofChars (isQuote : IsQuote quote) (value : List Char) :
    quoted [.scalar quote] (Text.ofChars value) =
      Text.ofChars (quote :: (written quote value ++ [quote])) := by
  rw [quoted, escapeEvery_escapeEvery_ofChars isQuote]
  simp [Text.ofChars]

end

/-!
### Scanning
-/

/-- Cuts what follows an opening quote at the first quote outside an escape sequence, into the
pieces before it and the text behind it. A backslash and the character behind it, whichever it is,
are an escape sequence; any other character is plain. -/
def scan (quote : Char) : List Char → Option (List Piece × List Char)
  | [] => none
  | ['\\'] => none
  | '\\' :: c :: rest =>
    (scan quote rest).map fun (pieces, after) => (.escape ['\\', c] :: pieces, after)
  | c :: rest =>
    if c = quote then some ([], rest)
    else (scan quote rest).map fun (pieces, after) => (Piece.push c pieces, after)

/-- Anything but a backslash closes the literal or is plain. -/
theorem scan_cons {quote c : Char} (notBackslash : c ≠ '\\') (rest : List Char) :
    scan quote (c :: rest) =
      if c = quote then some ([], rest)
      else (scan quote rest).map fun (pieces, after) => (Piece.push c pieces, after) := by
  rw [scan]
  · exact fun isBackslash _ => notBackslash isBackslash
  · exact fun _ _ isBackslash _ => notBackslash isBackslash

/-- The pieces of what is written for characters between quotes of a kind. -/
def writtenPieces (quote : Char) : List Char → List Piece
  | [] => []
  | c :: value =>
    if c = '\\' ∨ c = quote then .escape ['\\', c] :: writtenPieces quote value
    else Piece.push c (writtenPieces quote value)

section
variable {quote : Char}

/-- Scanning ends at the closing quote, not at one that is written for a character. -/
theorem scan_written (isQuote : IsQuote quote) (value after : List Char) :
    scan quote (written quote value ++ quote :: after) =
      some (writtenPieces quote value, after) := by
  induction value with
  | nil => exact (scan_cons isQuote.ne_backslash after).trans (if_pos rfl)
  | cons c value ih =>
      rw [writtenPieces]
      by_cases marked : c = '\\' ∨ c = quote
      · rw [written_cons_of_marked marked, if_pos marked, List.cons_append, List.cons_append, scan,
          ih]
        rfl
      · obtain ⟨notBackslash, notQuote⟩ := not_or.1 marked
        rw [written_cons_of_plain marked, if_neg marked, List.cons_append, scan_cons notBackslash,
          if_neg notQuote, ih]
        rfl

/-!
### Decoding
-/

theorem decodeEscape_marked (isQuote : IsQuote quote) {c : Char} (marked : c = '\\' ∨ c = quote) :
    decodeEscape ['\\', c] = .ok [.scalar c] := by
  rcases marked with rfl | rfl
  · rfl
  · rcases isQuote with rfl | rfl
    · rfl
    · rfl

theorem decodePieces_written (isQuote : IsQuote quote) (value : List Char) :
    decodePieces (writtenPieces quote value) = .ok (Text.ofChars value) := by
  induction value with
  | nil => rfl
  | cons c value ih =>
      rw [writtenPieces]
      by_cases marked : c = '\\' ∨ c = quote
      · rw [if_pos marked]
        exact decodePieces_cons_eq_ok_iff.2
          ⟨[.scalar c], Text.ofChars value, decodeEscape_marked isQuote marked, ih, rfl⟩
      · rw [if_neg marked]
        exact decodePieces_push ih

/-- Where there are no halves of pairs, there is nothing to join. -/
theorem joinPairs_ofChars (value : List Char) :
    joinPairs (Text.ofChars value) = Text.ofChars value := by
  induction value with
  | nil => rfl
  | cons c value ih =>
      have both : Text.ofChars (c :: value) = .scalar c :: Text.ofChars value := rfl
      rw [both, joinPairs, ih]
      simp

/-!
### Literals of the language

A line feed or a carriage return is written as it is, which no literal of the language allows. A
text without them is written as a literal that the language gives the units of the text.
-/

/-- A text holds no line feed and no carriage return. -/
def OnOneLine (value : List Char) : Prop := ∀ c ∈ value, c ≠ '\n' ∧ c ≠ '\r'

theorem escapeValue_marked (isQuote : IsQuote quote) {c : Char} (marked : c = '\\' ∨ c = quote) :
    EscapeValue [c] (unitsOf c.toNat) := by
  rcases marked with rfl | rfl
  · exact .single (by decide)
  · rcases isQuote with rfl | rfl
    · exact .single (by decide)
    · exact .single (by decide)

theorem mayPrecede_marked (isQuote : IsQuote quote) {c : Char} (marked : c = '\\' ∨ c = quote)
    (rest : List Char) : MayPrecede [c] rest := by
  rcases marked with rfl | rfl
  · simp [MayPrecede]
  · rcases isQuote with rfl | rfl
    · simp [MayPrecede]
    · simp [MayPrecede]

theorem literalValue_written (isQuote : IsQuote quote) {value : List Char}
    (oneLine : OnOneLine value) :
    LiteralValue quote (written quote value) (writtenPieces quote value)
      (textUnits (Text.ofChars value)) := by
  induction value with
  | nil => exact .empty
  | cons c value ih =>
      have rest := ih fun d known => oneLine d (List.mem_cons_of_mem _ known)
      rw [writtenPieces]
      by_cases marked : c = '\\' ∨ c = quote
      · rw [written_cons_of_marked marked, if_pos marked]
        exact .escape (escapeValue_marked isQuote marked) (mayPrecede_marked isQuote marked _) rest
      · obtain ⟨notBackslash, notQuote⟩ := not_or.1 marked
        obtain ⟨notFeed, notReturn⟩ := oneLine c List.mem_cons_self
        rw [written_cons_of_plain marked, if_neg marked]
        exact .plain ⟨notQuote, notBackslash, notFeed, notReturn⟩ rest

/-- A text that is written between quotes cannot break out of them and reads back as itself.
Whatever follows, the first quote outside an escape sequence is the one that was written last; the
pieces before it are decoded to the text, and so is the literal that they make up. Where the text is
on one line, what is written is a literal of the language, which is cut into the same pieces and has
the units of the text as its value. -/
theorem quoted_reads_back (isQuote : IsQuote quote) (value : List Char) :
    ∃ between pieces,
      quoted [.scalar quote] (Text.ofChars value) =
          Text.ofChars (quote :: (between ++ [quote])) ∧
        (∀ after, scan quote (between ++ quote :: after) = some (pieces, after)) ∧
        decodePieces pieces = .ok (Text.ofChars value) ∧
        valueOf pieces = .ok (Text.ofChars value) ∧
        (OnOneLine value →
          LiteralValue quote between pieces (textUnits (Text.ofChars value)) ∧
            ∀ after, readPieces? quote (between ++ quote :: after) = some (pieces, after)) := by
  refine ⟨written quote value, writtenPieces quote value, quoted_ofChars isQuote value,
    scan_written isQuote value, decodePieces_written isQuote value, ?_, ?_⟩
  · have joined : (Except.ok (Text.ofChars value)).map joinPairs =
        Except.ok (ε := EscapeFault) (Text.ofChars value) :=
      congrArg Except.ok (joinPairs_ofChars value)
    rw [valueOf_eq, decodePieces_written isQuote value, joined]
  · intro oneLine
    have literal := literalValue_written isQuote oneLine
    exact ⟨literal, readPieces?_of_literalValue isQuote literal⟩

end

/-- A value of backslashes, quotes and letters that would make up other escape sequences; it ends
in a backslash and goes over two lines. -/
def awkwardValue : List Char :=
  ['\\', '\'', '\\', '\\', 'n', '\\', 'u', '{', '4', '1', '}', '"', '\'', 'x', '\n', '\\']

theorem awkwardValue_reads_back :
    ∃ between pieces,
      quoted [.scalar '\''] (Text.ofChars awkwardValue) =
          Text.ofChars ('\'' :: (between ++ ['\''])) ∧
        scan '\'' (between ++ '\'' :: [';', '\'']) = some (pieces, [';', '\'']) ∧
        decodePieces pieces = .ok (Text.ofChars awkwardValue) := by
  obtain ⟨between, pieces, same, scanned, decoded, _⟩ :=
    quoted_reads_back (Or.inl rfl : IsQuote '\'') awkwardValue
  exact ⟨between, pieces, same, scanned _, decoded⟩

end ModuleAlias.Literal
