/-
Module: ModuleAlias.Proofs.Literal.CodeUnits
Purpose: Texts as sequences of units of sixteen bits. Joining the halves of pairs leaves the units
  of a text as they are and no pair apart, and a text without pairs that stand apart is determined
  by its units.
Imports: Mathlib.Data.List.Chain, ModuleAlias.Literal.Escape, ModuleAlias.Literal.Quoted
Main exports: Literal.unitsOf, Literal.textUnits, Literal.Unpaired, Literal.textUnits_joinPairs,
  Literal.unpaired_joinPairs, Literal.eq_of_textUnits_eq
-/
import Mathlib.Data.List.Chain
import ModuleAlias.Literal.Escape
import ModuleAlias.Literal.Quoted

namespace ModuleAlias

/-!
### Code points and their numbers
-/

namespace CodePoint

theorem value_of_ofValue? {number : Nat} {codePoint : CodePoint}
    (found : ofValue? number = some codePoint) : codePoint.value = number := by
  by_cases isHalf : 0xD800 ≤ number ∧ number < 0xE000
  · rw [ofValue?, dif_pos isHalf] at found
    cases found
    simp only [value]
    omega
  · by_cases isValid : number.isValidChar
    · rw [ofValue?, dif_neg isHalf, dif_pos isValid] at found
      cases found
      rfl
    · rw [ofValue?, dif_neg isHalf, dif_neg isValid] at found
      cases found

/-- Every number up to the last one is the number of a code point. -/
theorem exists_ofValue? {number : Nat} (valid : number ≤ 0x10FFFF) :
    ∃ codePoint, ofValue? number = some codePoint ∧ codePoint.value = number := by
  have known : (ofValue? number).isSome := by
    by_cases isHalf : 0xD800 ≤ number ∧ number < 0xE000
    · rw [ofValue?, dif_pos isHalf]
      rfl
    · have isValid : number.isValidChar := by
        unfold Nat.isValidChar
        omega
      rw [ofValue?, dif_neg isHalf, dif_pos isValid]
      rfl
  obtain ⟨codePoint, found⟩ := Option.isSome_iff_exists.1 known
  exact ⟨codePoint, found, value_of_ofValue? found⟩

theorem ofValue?_value (codePoint : CodePoint) : ofValue? codePoint.value = some codePoint := by
  cases codePoint with
  | scalar char =>
      have valid : char.toNat.isValidChar := char.valid
      have notHalf : ¬ (0xD800 ≤ char.toNat ∧ char.toNat < 0xE000) := by
        unfold Nat.isValidChar at valid
        omega
      rw [value, ofValue?, dif_neg notHalf, dif_pos valid]
      rfl
  | surrogate index =>
      have isHalf : 0xD800 ≤ 0xD800 + index.val ∧ 0xD800 + index.val < 0xE000 := by omega
      rw [value, ofValue?, dif_pos isHalf]
      simp

end CodePoint

namespace Literal

/-!
### Units
-/

/-- The units of the code point with a number: the number itself, or the two halves of a pair. -/
def unitsOf (number : Nat) : List Nat :=
  if number < 0x10000 then [number]
  else [0xD800 + (number - 0x10000) / 1024, 0xDC00 + (number - 0x10000) % 1024]

/-- The units of a text. -/
def textUnits (text : Text) : List Nat := text.flatMap fun codePoint => unitsOf codePoint.value

@[simp] theorem textUnits_nil : textUnits [] = [] := rfl

@[simp] theorem textUnits_cons (codePoint : CodePoint) (text : Text) :
    textUnits (codePoint :: text) = unitsOf codePoint.value ++ textUnits text := rfl

@[simp] theorem textUnits_append (front back : Text) :
    textUnits (front ++ back) = textUnits front ++ textUnits back :=
  List.flatMap_append

theorem unitsOf_surrogate (index : Fin 2048) :
    unitsOf (CodePoint.surrogate index).value = [0xD800 + index.val] := by
  have small : 0xD800 + index.val < 0x10000 := by omega
  rw [CodePoint.value, unitsOf, if_pos small]

/-!
### Pairs
-/

/-- Whether a code point is the first half of a pair. -/
def IsHigh : CodePoint → Prop
  | .surrogate index => index.val < 1024
  | .scalar _ => False

/-- Whether a code point is the second half of a pair. -/
def IsLow : CodePoint → Prop
  | .surrogate index => 1024 ≤ index.val
  | .scalar _ => False

instance : DecidablePred IsHigh
  | .surrogate index => inferInstanceAs (Decidable (index.val < 1024))
  | .scalar _ => inferInstanceAs (Decidable False)

instance : DecidablePred IsLow
  | .surrogate index => inferInstanceAs (Decidable (1024 ≤ index.val))
  | .scalar _ => inferInstanceAs (Decidable False)

/-- No first half of a pair stands directly before a second half. -/
def Unpaired (text : Text) : Prop :=
  text.IsChain fun first second => ¬ (IsHigh first ∧ IsLow second)

instance : DecidablePred Unpaired :=
  fun text => inferInstanceAs (Decidable (text.IsChain _))

/-- Halves of a pair make up the code point that has them as its units. -/
theorem exists_pairValue {high low : Fin 2048} (first : high.val < 1024)
    (second : 1024 ≤ low.val) :
    ∃ char : Char, pairValue high.val low.val = some (.scalar char) ∧
      unitsOf char.toNat = [0xD800 + high.val, 0xD800 + low.val] := by
  have valid : 0x10000 + high.val * 1024 + (low.val - 1024) ≤ 0x10FFFF := by omega
  obtain ⟨codePoint, found, number⟩ := CodePoint.exists_ofValue? valid
  cases codePoint with
  | surrogate index =>
      simp only [CodePoint.value] at number
      omega
  | scalar char =>
      simp only [CodePoint.value] at number
      refine ⟨char, ?_, ?_⟩
      · rw [pairValue, if_pos ⟨first, second⟩, found]
      · have large : ¬ char.toNat < 0x10000 := by omega
        have quotient : (char.toNat - 0x10000) / 1024 = high.val := by omega
        have remainder : (char.toNat - 0x10000) % 1024 = low.val - 1024 := by omega
        have same : 0xDC00 + (low.val - 1024) = 0xD800 + low.val := by omega
        rw [unitsOf, if_neg large, quotient, remainder, same]

theorem pairValue_of_not_pair {high low : Nat} (apart : ¬ (high < 1024 ∧ 1024 ≤ low)) :
    pairValue high low = none := if_neg apart

/-- What is joined is a pair. -/
theorem pair_of_pairValue {high low : Nat} {joined : CodePoint}
    (found : pairValue high low = some joined) : high < 1024 ∧ 1024 ≤ low := by
  by_contra apart
  rw [pairValue_of_not_pair apart] at found
  cases found

/-- Joining pairs keeps the units of a text. -/
theorem textUnits_joinPairs (text : Text) : textUnits (joinPairs text) = textUnits text := by
  fun_induction joinPairs text with
  | case1 high low rest joined found ih =>
      have pair := pair_of_pairValue found
      obtain ⟨char, found', units⟩ := exists_pairValue pair.1 pair.2
      obtain rfl : .scalar char = joined := Option.some_inj.1 (found'.symm.trans found)
      rw [textUnits_cons, textUnits_cons, textUnits_cons, ih, unitsOf_surrogate,
        unitsOf_surrogate, CodePoint.value, units]
      rfl
  | case2 high low rest none ih => rw [textUnits_cons, textUnits_cons, ih]
  | case3 codePoint rest _ ih => rw [textUnits_cons, textUnits_cons, ih]
  | case4 => rfl

/-- If a text with its pairs joined begins with a second half, the text itself does. -/
theorem head?_of_isLow_head?_joinPairs {text : Text} {codePoint : CodePoint}
    (begins : (joinPairs text).head? = some codePoint) (low : IsLow codePoint) :
    text.head? = some codePoint := by
  revert begins
  fun_cases joinPairs text with
  | case1 high low' rest joined found =>
      intro begins
      have pair := pair_of_pairValue found
      obtain ⟨char, found', _⟩ := exists_pairValue pair.1 pair.2
      obtain rfl : .scalar char = joined := Option.some_inj.1 (found'.symm.trans found)
      obtain rfl := Option.some_inj.1 begins
      exact low.elim
  | case2 => exact id
  | case3 => exact id
  | case4 => exact id

/-- Joining pairs leaves none apart. -/
theorem unpaired_joinPairs (text : Text) : Unpaired (joinPairs text) := by
  fun_induction joinPairs text with
  | case1 high low rest joined found ih =>
      have pair := pair_of_pairValue found
      obtain ⟨char, found', _⟩ := exists_pairValue pair.1 pair.2
      obtain rfl : .scalar char = joined := Option.some_inj.1 (found'.symm.trans found)
      refine List.isChain_cons.2 ⟨?_, ih⟩
      intro next _ halves
      exact halves.1
  | case2 high low rest none ih =>
      refine List.isChain_cons.2 ⟨?_, ih⟩
      intro next begins halves
      have second := head?_of_isLow_head?_joinPairs begins halves.2
      obtain rfl := Option.some_inj.1 second
      obtain ⟨char, found, _⟩ := exists_pairValue halves.1 halves.2
      simp [none] at found
  | case3 codePoint rest single ih =>
      refine List.isChain_cons.2 ⟨?_, ih⟩
      intro next begins halves
      have second := head?_of_isLow_head?_joinPairs begins halves.2
      cases codePoint with
      | scalar char => exact halves.1
      | surrogate high =>
          cases next with
          | scalar char => exact halves.2
          | surrogate low =>
              cases rest with
              | nil => cases second
              | cons first more =>
                  obtain rfl := Option.some_inj.1 second
                  exact single high low more rfl rfl
  | case4 => exact List.isChain_nil

/-!
### Texts from units
-/

/-- The text of single units, one code point each. -/
def ofUnits (units : List Nat) : Text := units.filterMap CodePoint.ofValue?

theorem ofUnits_cons_value (codePoint : CodePoint) (units : List Nat) :
    ofUnits (codePoint.value :: units) = codePoint :: ofUnits units := by
  rw [ofUnits, List.filterMap_cons_some (CodePoint.ofValue?_value codePoint)]
  rfl

/-- A code point has one unit, its number, or those of two halves that make it up. -/
theorem unitsOf_value_cases (codePoint : CodePoint) :
    unitsOf codePoint.value = [codePoint.value] ∨
      ∃ high low : Fin 2048, pairValue high.val low.val = some codePoint ∧
        unitsOf codePoint.value =
          [(CodePoint.surrogate high).value, (CodePoint.surrogate low).value] := by
  by_cases small : codePoint.value < 0x10000
  · left
    rw [unitsOf, if_pos small]
  · right
    cases codePoint with
    | surrogate index =>
        simp only [CodePoint.value] at small
        omega
    | scalar char =>
        have valid : char.toNat.isValidChar := char.valid
        simp only [CodePoint.value] at small
        unfold Nat.isValidChar at valid
        have highBound : (char.toNat - 0x10000) / 1024 < 1024 := by omega
        have lowBound : (char.toNat - 0x10000) % 1024 < 1024 := Nat.mod_lt _ (by decide)
        refine ⟨⟨(char.toNat - 0x10000) / 1024, by omega⟩,
          ⟨1024 + (char.toNat - 0x10000) % 1024, by omega⟩, ?_, ?_⟩
        · have number : 0x10000 + (char.toNat - 0x10000) / 1024 * 1024 +
              (1024 + (char.toNat - 0x10000) % 1024 - 1024) = (CodePoint.scalar char).value := by
            simp only [CodePoint.value]
            omega
          rw [pairValue, if_pos ⟨highBound, Nat.le_add_right _ _⟩, number,
            CodePoint.ofValue?_value]
        · rw [CodePoint.value, unitsOf, if_neg small]
          simp only [CodePoint.value, ← Nat.add_assoc]

/-- In the text of single units, a first half is followed by a second half only where the code
points it comes from already were. -/
theorem head?_ofUnits_of_isLow {text : Text} {codePoint : CodePoint}
    (begins : (ofUnits (textUnits text)).head? = some codePoint) (low : IsLow codePoint) :
    text.head? = some codePoint := by
  cases text with
  | nil => cases begins
  | cons first rest =>
      rcases unitsOf_value_cases first with single | ⟨high, low', joined, halves⟩
      · rw [textUnits_cons, single, List.singleton_append, ofUnits_cons_value] at begins
        exact begins
      · rw [textUnits_cons, halves, List.cons_append, ofUnits_cons_value] at begins
        obtain rfl := Option.some_inj.1 begins
        have first := (pair_of_pairValue joined).1
        have second : 1024 ≤ high.val := low
        omega

/-- A text in which no pair stands apart is what its units come to when pairs are joined. -/
theorem joinPairs_ofUnits {text : Text} (unpaired : Unpaired text) :
    joinPairs (ofUnits (textUnits text)) = text := by
  induction text with
  | nil => rfl
  | cons codePoint rest ih =>
      obtain ⟨apart, unpaired'⟩ := List.isChain_cons.1 unpaired
      have rest_eq := ih unpaired'
      rcases unitsOf_value_cases codePoint with single | ⟨high, low, joined, halves⟩
      · rw [textUnits_cons, single, List.singleton_append, ofUnits_cons_value]
        cases next : ofUnits (textUnits rest) with
        | nil =>
            rw [next] at rest_eq
            rw [← rest_eq]
            cases codePoint <;> rfl
        | cons second more =>
            rw [next] at rest_eq
            cases codePoint with
            | scalar char => rw [joinPairs, rest_eq]; simp
            | surrogate high =>
                cases second with
                | scalar char => rw [joinPairs, rest_eq]; simp
                | surrogate low =>
                    have none : pairValue high.val low.val = none := by
                      apply pairValue_of_not_pair
                      intro pair
                      have begins : rest.head? = some (.surrogate low) := by
                        apply head?_ofUnits_of_isLow
                        · rw [next]
                          rfl
                        · exact pair.2
                      exact apart _ begins pair
                    rw [joinPairs, none, rest_eq]
      · rw [textUnits_cons, halves, List.cons_append, List.singleton_append, ofUnits_cons_value,
          ofUnits_cons_value, joinPairs, joined, rest_eq]

/-- Texts in which no pair stands apart are the same if their units are. -/
theorem eq_of_textUnits_eq {first second : Text} (unpaired : Unpaired first)
    (unpaired' : Unpaired second) (same : textUnits first = textUnits second) :
    first = second := by
  rw [← joinPairs_ofUnits unpaired, same, joinPairs_ofUnits unpaired']

end Literal

end ModuleAlias
