/-
Module: ModuleAlias.Proofs.External.Lookups
Purpose: The look-up of an external module names its namespace and its property without loss. Each
  is written as a literal of printable ASCII characters, which closes at its last character only and
  is read back as the name, so look-ups in one global object are different unless both names agree.
Imports: ModuleAlias.Proofs.Literal.StringValue
Main exports: Literal.WritesAscii, Literal.exists_literalValue_ascii,
  External.Binding.expression_writes_names
-/
import ModuleAlias.Proofs.Literal.StringValue

namespace ModuleAlias

namespace Literal

/-!
### Written units
-/

theorem hexDigit_of_lt {digit : Nat} (small : digit < 16) :
    hexDigit digit ∈ hexDigits ∧ digitValue (hexDigit digit) = digit := by
  have all : ∀ digit < 16, hexDigit digit ∈ hexDigits ∧ digitValue (hexDigit digit) = digit := by
    decide
  exact all digit small

/-- The four digits that are written for a unit are its number. -/
theorem escapeValue_unit {unit : Nat} (small : unit < 0x10000) :
    EscapeValue ((unitEscape unit).drop 1) [unit] := by
  obtain ⟨digit₁, value₁⟩ := hexDigit_of_lt (Nat.mod_lt (unit / 4096) (by decide : 0 < 16))
  obtain ⟨digit₂, value₂⟩ := hexDigit_of_lt (Nat.mod_lt (unit / 256) (by decide : 0 < 16))
  obtain ⟨digit₃, value₃⟩ := hexDigit_of_lt (Nat.mod_lt (unit / 16) (by decide : 0 < 16))
  obtain ⟨digit₄, value₄⟩ := hexDigit_of_lt (Nat.mod_lt unit (by decide : 0 < 16))
  have number : numeral [hexDigit (unit / 4096 % 16), hexDigit (unit / 256 % 16),
      hexDigit (unit / 16 % 16), hexDigit (unit % 16)] = unit := by
    simp only [numeral, List.foldl_cons, List.foldl_nil, value₁, value₂, value₃, value₄]
    omega
  have sequence := @EscapeValue.fourDigits (hexDigit (unit / 4096 % 16))
    (hexDigit (unit / 256 % 16)) (hexDigit (unit / 16 % 16)) (hexDigit (unit % 16))
    (by simp [digit₁, digit₂, digit₃, digit₄])
  rw [number] at sequence
  exact sequence

theorem unitsOf_lt (codePoint : CodePoint) : ∀ unit ∈ unitsOf codePoint.value, unit < 0x10000 := by
  intro unit known
  rcases unitsOf_value_cases codePoint with single | ⟨high, low, _, halves⟩
  · unfold unitsOf at known
    split at known
    · rename_i small
      rw [List.mem_singleton] at known
      omega
    · rename_i large
      simp [unitsOf, large] at single
  · rw [halves, List.mem_cons, List.mem_singleton] at known
    rcases known with rfl | rfl
    · simp only [CodePoint.value]
      omega
    · simp only [CodePoint.value]
      omega

section
variable {text : List Char} {pieces : List Piece} {units : List Nat}

/-- A unit in front of a literal is written by its number. -/
theorem exists_literalValue_unitEscape {unit : Nat} (small : unit < 0x10000)
    (literal : LiteralValue '"' text pieces units) :
    ∃ pieces', LiteralValue '"' (unitEscape unit ++ text) pieces' (unit :: units) :=
  ⟨_, .escape (escapeValue_unit small) (by simp [MayPrecede, unitEscape]) literal⟩

theorem exists_literalValue_unitEscapes {before : List Nat}
    (small : ∀ unit ∈ before, unit < 0x10000) (literal : LiteralValue '"' text pieces units) :
    ∃ pieces', LiteralValue '"' (before.flatMap unitEscape ++ text) pieces' (before ++ units) := by
  induction before with
  | nil => exact ⟨pieces, literal⟩
  | cons unit before ih =>
      obtain ⟨pieces', literal'⟩ := ih fun unit known => small unit (List.mem_cons_of_mem _ known)
      rw [List.flatMap_cons, List.append_assoc]
      exact exists_literalValue_unitEscape (small unit List.mem_cons_self) literal'

theorem exists_literalValue_single {c : Char} {unit : Nat} (listed : (c, unit) ∈ singleEscapes)
    (literal : LiteralValue '"' text pieces units) :
    ∃ pieces', LiteralValue '"' ('\\' :: c :: text) pieces' (unit :: units) := by
  have all : ∀ listed ∈ singleEscapes, listed.1 ≠ '0' ∧ listed.1 ≠ '\r' := by decide
  obtain ⟨notNull, notReturn⟩ := all (c, unit) listed
  have before : MayPrecede [c] text := by
    constructor
    · intro isNull
      exact absurd (List.cons.inj isNull).1 notNull
    · intro isReturn
      exact absurd (List.cons.inj isReturn).1 notReturn
  exact ⟨_, .escape (.single listed) before literal⟩

/-- A code point in front of a literal is written with its units. -/
theorem exists_literalValue_asciiEscape (codePoint : CodePoint)
    (literal : LiteralValue '"' text pieces units) :
    ∃ pieces', LiteralValue '"' (asciiEscape codePoint ++ text) pieces'
      (unitsOf codePoint.value ++ units) := by
  unfold asciiEscape
  split
  · exact exists_literalValue_single (by decide) literal
  · exact exists_literalValue_single (by decide) literal
  · exact exists_literalValue_single (by decide) literal
  · exact exists_literalValue_single (by decide) literal
  · exact exists_literalValue_single (by decide) literal
  · exact exists_literalValue_single (by decide) literal
  · exact exists_literalValue_single (by decide) literal
  · rename_i c notQuote notBackslash notFeed notReturn _ _ _
    split
    · have stands : StandsBetween '"' c := by
        refine ⟨?_, ?_, ?_, ?_⟩
        all_goals rintro rfl
        · exact notQuote rfl
        · exact notBackslash rfl
        · exact notFeed rfl
        · exact notReturn rfl
      exact ⟨_, .plain stands literal⟩
    · exact exists_literalValue_unitEscapes (unitsOf_lt _) literal
  · exact exists_literalValue_unitEscapes (unitsOf_lt _) literal

/-- What is written for a text between the quotes is a literal with the units of the text. -/
theorem exists_literalValue_ascii (value : Text) :
    ∃ pieces, LiteralValue '"' (value.flatMap asciiEscape) pieces (textUnits value) := by
  induction value with
  | nil => exact ⟨[], .empty⟩
  | cons codePoint value ih =>
      obtain ⟨pieces, literal⟩ := ih
      exact exists_literalValue_asciiEscape codePoint literal

/-- No plain piece of a literal holds the quote that closes it. -/
theorem quote_not_mem_plain {quote : Char} (literal : LiteralValue quote text pieces units)
    {plain : List Char} (piece : Piece.plain plain ∈ pieces) : quote ∉ plain := by
  induction literal generalizing plain with
  | empty => exact absurd piece List.not_mem_nil
  | plain stands more ih =>
      rename_i c text pieces units
      have notQuote : quote ≠ c := Ne.symm stands.1
      unfold Piece.push at piece
      split at piece
      · rename_i first others
        rcases List.mem_cons.1 piece with same | later
        · cases same
          rw [List.mem_cons, not_or]
          exact ⟨notQuote, ih List.mem_cons_self⟩
        · exact ih (List.mem_cons_of_mem _ later)
      · rcases List.mem_cons.1 piece with same | later
        · cases same
          simpa using notQuote
        · exact ih later
  | escape sequence before more ih =>
      rcases List.mem_cons.1 piece with same | later
      · cases same
      · exact ih later

end

/-!
### Printable characters
-/

/-- Whether a character is one of the printable characters of ASCII. -/
def IsPrintable (c : Char) : Prop := ' ' ≤ c ∧ c ≤ '~'

instance : DecidablePred IsPrintable :=
  fun c => inferInstanceAs (Decidable (' ' ≤ c ∧ c ≤ '~'))

theorem isPrintable_of_mem_unitEscape {unit : Nat} {c : Char} (known : c ∈ unitEscape unit) :
    IsPrintable c := by
  have digit : ∀ digit < 16, IsPrintable (hexDigit digit) := by decide
  have place : ∀ number : Nat, IsPrintable (hexDigit (number % 16)) :=
    fun number => digit _ (Nat.mod_lt number (by decide))
  simp only [unitEscape, List.mem_cons, List.not_mem_nil, or_false] at known
  rcases known with rfl | rfl | rfl | rfl | rfl | rfl
  · decide
  · decide
  · exact place _
  · exact place _
  · exact place _
  · exact place _

theorem isPrintable_of_mem_asciiEscape {codePoint : CodePoint} {c : Char}
    (known : c ∈ asciiEscape codePoint) : IsPrintable c := by
  have escaped : ∀ {units : List Nat}, c ∈ units.flatMap unitEscape → IsPrintable c := by
    intro units known
    obtain ⟨unit, _, written⟩ := List.mem_flatMap.1 known
    exact isPrintable_of_mem_unitEscape written
  have spelled : ∀ {spelling : List Char}, (spelling.all fun c => IsPrintable c) = true →
      c ∈ spelling → IsPrintable c :=
    fun all known => of_decide_eq_true (List.all_eq_true.1 all c known)
  unfold asciiEscape at known
  split at known
  · exact spelled (by decide) known
  · exact spelled (by decide) known
  · exact spelled (by decide) known
  · exact spelled (by decide) known
  · exact spelled (by decide) known
  · exact spelled (by decide) known
  · exact spelled (by decide) known
  · split at known
    · rename_i printable
      rw [List.mem_singleton] at known
      exact known ▸ printable
    · exact escaped known
  · exact escaped known

/-!
### Written names
-/

/-- A text is a literal of printable ASCII characters for a value: it stands between double quotes,
closes at its last character only, holds no other quote outside an escape sequence, and is read back
as the value. -/
structure WritesAscii (written : List Char) (value : Text) : Prop where
  printable : ∀ c ∈ written, IsPrintable c
  readsBack : ∃ between pieces, written = '"' :: (between ++ ['"']) ∧
    readPieces? '"' (between ++ ['"']) = some (pieces, []) ∧
    (∀ plain, Piece.plain plain ∈ pieces → '"' ∉ plain) ∧
    valueOf pieces = .ok value

/-- Whatever follows it, a written text without pairs apart is read back up to its closing quote. -/
theorem exists_readPieces?_ascii {value : Text} (unpaired : Unpaired value) :
    ∃ pieces, (∀ after, readPieces? '"' (value.flatMap asciiEscape ++ '"' :: after) =
        some (pieces, after)) ∧
      (∀ plain, Piece.plain plain ∈ pieces → '"' ∉ plain) ∧ valueOf pieces = .ok value := by
  obtain ⟨pieces, literal⟩ := exists_literalValue_ascii value
  obtain ⟨value', decoded, same, unpaired'⟩ := exists_valueOf literal
  refine ⟨pieces, ?_, ?_, ?_⟩
  · exact readPieces?_of_literalValue (Or.inr rfl) literal
  · intro plain piece
    exact quote_not_mem_plain literal piece
  · rw [decoded, eq_of_textUnits_eq unpaired' unpaired same]

theorem writesAscii_asciiQuoted {value : Text} (unpaired : Unpaired value) :
    WritesAscii (asciiQuoted value) value := by
  obtain ⟨pieces, read, closed, decoded⟩ := exists_readPieces?_ascii unpaired
  constructor
  · intro c known
    rw [asciiQuoted, List.cons_append, List.mem_cons, List.mem_append, List.mem_singleton] at known
    rcases known with rfl | between | rfl
    · decide
    · obtain ⟨codePoint, _, written⟩ := List.mem_flatMap.1 between
      exact isPrintable_of_mem_asciiEscape written
    · decide
  · exact ⟨value.flatMap asciiEscape, pieces, rfl, read [], closed, decoded⟩

/-- Written texts that begin alike are the same, and so is what follows them. -/
theorem asciiQuoted_append_injective {first second : Text} (unpaired : Unpaired first)
    (unpaired' : Unpaired second) {after after' : List Char}
    (same : asciiQuoted first ++ after = asciiQuoted second ++ after') :
    first = second ∧ after = after' := by
  obtain ⟨pieces, read, _, decoded⟩ := exists_readPieces?_ascii unpaired
  obtain ⟨pieces', read', _, decoded'⟩ := exists_readPieces?_ascii unpaired'
  have between : first.flatMap asciiEscape ++ '"' :: after =
      second.flatMap asciiEscape ++ '"' :: after' := by
    simpa [asciiQuoted] using same
  have alike : some (pieces, after) = some (pieces', after') := by
    rw [← read after, between, read' after']
  obtain ⟨rfl, rfl⟩ := Prod.mk.inj (Option.some_inj.1 alike)
  have values : Except.ok (ε := EscapeFault) first = .ok second := decoded.symm.trans decoded'
  cases values
  exact ⟨rfl, rfl⟩

end Literal

namespace External.Binding

open Literal

theorem ofChars_injective {first second : List Char}
    (same : Text.ofChars first = Text.ofChars second) : first = second := by
  have different : Function.Injective CodePoint.scalar := fun _ _ same => by cases same; rfl
  exact List.map_injective_iff.2 different same

theorem property_append (name : Text) (after : List Char) :
    property name ++ Text.ofChars after =
      Text.ofChars ('[' :: (asciiQuoted name ++ ']' :: after)) := by
  simp [property, Text.ofChars]

/-- A name is written as a literal of printable ASCII characters that is read back as the name,
halves of pairs that stand alone included; only a first half directly before a second one is not
told from the character that they make up. So look-ups in one global object differ when their
namespaces or their properties do. -/
theorem expression_writes_names :
    (∀ name : Text, Unpaired name → WritesAscii (asciiQuoted name) name) ∧
      ∀ (globalObject : Text) (first second : Binding),
        (∀ name ∈ [first.space, first.key, second.space, second.key], Unpaired name) →
          first.expression globalObject = second.expression globalObject →
            first.space = second.space ∧ first.key = second.key := by
  constructor
  · intro name unpaired
    exact writesAscii_asciiQuoted unpaired
  · intro globalObject first second unpaired same
    have lookups : property first.space ++ property first.key =
        property second.space ++ property second.key := by
      simpa [expression] using same
    have key : ∀ binding : Binding, property binding.key =
        Text.ofChars ('[' :: asciiQuoted binding.key ++ [']']) := fun _ => rfl
    rw [key, key, property_append, property_append] at lookups
    have spaces := (List.cons.inj (ofChars_injective lookups)).2
    obtain ⟨sameSpace, rest⟩ := asciiQuoted_append_injective
      (unpaired first.space (by simp)) (unpaired second.space (by simp)) spaces
    have keys := (List.cons.inj (List.cons.inj rest).2).2
    exact ⟨sameSpace, (asciiQuoted_append_injective (unpaired first.key (by simp))
      (unpaired second.key (by simp)) keys).1⟩

/-- A namespace that holds what ends a look-up, and a property that begins with half of a pair, are
told from others. The bound names do not matter. -/
theorem awkward_names_are_written :
    let first : Binding :=
      { space := "a\"][\n\x7f", key := .surrogate 0 :: Text.ofString "😀", names := ["a"] }
    let second : Binding := { first with names := [] }
    WritesAscii (asciiQuoted first.key) first.key ∧
      (first.expression "window" = second.expression "window" ∧
        first.space = second.space ∧ first.key = second.key) := by
  intro first second
  have same : first.expression "window" = second.expression "window" := rfl
  refine ⟨expression_writes_names.1 first.key (by decide), same, ?_⟩
  exact expression_writes_names.2 "window" first second (by decide) same

end External.Binding

end ModuleAlias
