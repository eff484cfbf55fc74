/-
Module: ModuleAlias.Proofs.Literal.LargeNumbers
Purpose: Which literals have no value. Decoding an escape sequence fails for a number beyond a
  signed word of 32 bits and for nothing else; a literal has a value unless one of its pieces is
  such a sequence.
Imports: ModuleAlias.Proofs.Literal.StringValue
Main exports: Literal.Piece.TooLarge, Literal.Piece.decode_eq_error_iff,
  Literal.valueOf_eq_error_iff
-/
import ModuleAlias.Proofs.Literal.StringValue

namespace ModuleAlias.Literal

/-- A number beyond a signed word of 32 bits. -/
def BeyondWord (number : Int) : Prop := number < -0x80000000 ∨ 0x80000000 ≤ number

theorem decodeNumber_eq_error_iff {digits : List Char} {fault : EscapeFault} :
    decodeNumber digits = .error fault ↔
      ∃ number, readHexadecimal? digits = some number ∧ BeyondWord number := by
  cases fault
  unfold decodeNumber BeyondWord
  cases readHexadecimal? digits with
  | none => simp
  | some number =>
      by_cases beyond : number < -0x80000000 ∨ 0x80000000 ≤ number
      · simp [beyond]
      · by_cases negative : number < 0
        · simp [beyond, negative]
        · simp [beyond, negative]

/-- A sequence that is not a mark with digits stands for something. -/
theorem exists_decodeEscape_of_not_numeric {sequence : List Char}
    (other : ∀ mark digit digits, sequence.drop 1 = mark :: digit :: digits →
      ¬ (mark = 'u' ∨ mark = 'x')) :
    ∃ text, decodeEscape sequence = .ok text := by
  unfold decodeEscape
  dsimp only
  split
  · exact ⟨[], rfl⟩
  · split
    · rename_i mark digit digits body
      exact ⟨_, if_neg (other mark digit digits body)⟩
    · split
      · exact ⟨_, rfl⟩
      · exact ⟨_, rfl⟩

namespace Piece

/-- An escape sequence whose digits write a number beyond a signed word of 32 bits. -/
def TooLarge : Piece → Prop
  | plain _ => False
  | escape sequence =>
    ∃ mark digit digits number, sequence.drop 1 = mark :: digit :: digits ∧
      (mark = 'u' ∨ mark = 'x') ∧
      readHexadecimal? (stripBraces (digit :: digits)) = some number ∧ BeyondWord number

theorem decode_eq_error_iff {piece : Piece} {fault : EscapeFault} :
    piece.decode = .error fault ↔ piece.TooLarge := by
  cases piece with
  | plain text =>
      constructor
      · intro failed
        cases failed
      · intro impossible
        exact impossible.elim
  | escape sequence =>
      constructor
      · intro failed
        by_contra fits
        by_cases numeric : ∃ mark digit digits, sequence.drop 1 = mark :: digit :: digits ∧
            (mark = 'u' ∨ mark = 'x')
        · obtain ⟨mark, digit, digits, body, isMark⟩ := numeric
          rw [decode, decodeEscape_of_numeric body isMark] at failed
          cases number : decodeNumber (stripBraces (digit :: digits)) with
          | ok codePoint =>
              rw [number] at failed
              cases failed
          | error fault' =>
              obtain ⟨value, read, beyond⟩ := decodeNumber_eq_error_iff.1 number
              exact fits ⟨mark, digit, digits, value, body, isMark, read, beyond⟩
        · obtain ⟨text, decoded⟩ := exists_decodeEscape_of_not_numeric
            fun mark digit digits body isMark => numeric ⟨mark, digit, digits, body, isMark⟩
          rw [decode, decoded] at failed
          cases failed
      · rintro ⟨mark, digit, digits, value, body, isMark, read, beyond⟩
        have number : decodeNumber (stripBraces (digit :: digits)) = .error fault :=
          decodeNumber_eq_error_iff.2 ⟨value, read, beyond⟩
        rw [decode, decodeEscape_of_numeric body isMark, number]
        rfl

end Piece

/-- Pieces cannot be decoded exactly if one of them cannot. -/
theorem decodePieces_eq_error_iff {pieces : List Piece} {fault : EscapeFault} :
    decodePieces pieces = .error fault ↔ ∃ piece ∈ pieces, piece.TooLarge := by
  induction pieces with
  | nil => simp [decodePieces, pure, Except.pure, Except.map]
  | cons piece pieces ih =>
      simp only [List.mem_cons, exists_eq_or_imp, ← ih, ← @Piece.decode_eq_error_iff piece fault]
      unfold decodePieces
      rw [List.mapM_cons]
      cases piece.decode with
      | error fault' =>
          cases fault
          cases fault'
          simp [bind, Except.bind, Except.map]
      | ok first =>
          cases pieces.mapM Piece.decode with
          | error fault' => simp [bind, Except.bind, Except.map]
          | ok texts => simp [bind, Except.bind, Except.map, pure, Except.pure]

/-- A literal has no value exactly if one of its pieces has a number that is too large. -/
theorem valueOf_eq_error_iff {pieces : List Piece} {fault : EscapeFault} :
    valueOf pieces = .error fault ↔ ∃ piece ∈ pieces, piece.TooLarge := by
  rw [← @decodePieces_eq_error_iff pieces fault, valueOf_eq]
  cases decodePieces pieces with
  | error fault' => exact Iff.rfl
  | ok text => simp [Except.map]

end ModuleAlias.Literal
