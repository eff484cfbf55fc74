/-
Module: ModuleAlias.Decimal.Double
Purpose: Nonnegative doubles as exact numbers, `mantissa * 2 ^ exponent`. A decimal stands for the
  double nearest to it, and of two that are equally near for the one with the even mantissa. A
  double is written with the fewest decimal digits that still stand for it.
Imports: none
Main exports: Decimal.Double, Decimal.nearest?, Decimal.Digits, Decimal.shortest
-/

namespace ModuleAlias.Decimal

/-- A nonnegative double: `mantissa * 2 ^ exponent`, with a mantissa of at most 53 bits. -/
structure Double where
  mantissa : Nat
  exponent : Int
deriving DecidableEq, Repr

/-- Decimal digits: `digits * 10 ^ exponent`. -/
structure Digits where
  digits : Nat
  exponent : Int
deriving DecidableEq, Repr

/-- A number times a power of a base, as a numerator and a denominator. -/
def asFraction (base number : Nat) (exponent : Int) : Nat × Nat :=
  if 0 ≤ exponent then (number * base.pow exponent.toNat, 1)
  else (number, base.pow (-exponent).toNat)

/-- A quotient rounded to the nearest whole number, a half to the even one. -/
def roundedQuotient (numerator denominator : Nat) : Nat :=
  let whole := numerator / denominator
  let twice := 2 * (numerator % denominator)
  if twice < denominator ∨ (twice = denominator ∧ whole % 2 = 0) then whole else whole + 1

/-- The least exponent of a double. -/
def leastExponent : Int := -1074

/-- The greatest exponent of a double with 53 bits. -/
def greatestExponent : Int := 971

/-- The exponent with which a fraction has a whole part of 53 bits, give or take one bit. -/
def guessedExponent (numerator denominator : Nat) : Int :=
  (numerator.log2 : Int) - denominator.log2 - 52

/-- A fraction divided by a power of two. -/
def scaled (numerator denominator : Nat) (exponent : Int) : Nat × Nat :=
  if 0 ≤ exponent then (numerator, denominator * Nat.pow 2 exponent.toNat)
  else (numerator * Nat.pow 2 (-exponent).toNat, denominator)

/-- The exponent of the double nearest to a fraction. -/
def exponentOf (numerator denominator : Nat) : Int :=
  let guess := guessedExponent numerator denominator
  let (upper, lower) := scaled numerator denominator guess
  let exponent := if upper / lower < Nat.pow 2 52 then guess - 1 else guess
  max exponent leastExponent

/-- The double nearest to a fraction; none where that is infinite. -/
def nearestToFraction? (numerator denominator : Nat) : Option Double :=
  if numerator = 0 then some { mantissa := 0, exponent := leastExponent }
  else
    let exponent := exponentOf numerator denominator
    let (upper, lower) := scaled numerator denominator exponent
    let mantissa := roundedQuotient upper lower
    let result : Double :=
      if mantissa = Nat.pow 2 53 then { mantissa := Nat.pow 2 52, exponent := exponent + 1 }
      else { mantissa, exponent }
    if greatestExponent < result.exponent then none else some result

/-- The number of decimal digits of a number. -/
def digitCount (number : Nat) : Nat := (Nat.toDigits 10 number).length

/-- The double that decimal digits stand for; none where that is infinite. Far from the doubles the
magnitude decides. -/
def nearest? (decimal : Digits) : Option Double :=
  let magnitude : Int := digitCount decimal.digits + decimal.exponent
  if decimal.digits = 0 ∨ magnitude < -330 then some { mantissa := 0, exponent := leastExponent }
  else if 310 < magnitude then none
  else
    let (numerator, denominator) := asFraction 10 decimal.digits decimal.exponent
    nearestToFraction? numerator denominator

/-- The exponent of the last digit when a fraction is written with a number of digits. -/
def lastPlace (numerator denominator count : Nat) : Int :=
  let guess : Int := (digitCount numerator : Int) - digitCount denominator
  let (upper, lower) := asFraction 10 denominator guess
  let magnitude := if upper ≤ numerator * lower then guess + 1 else guess
  magnitude - count

/-- The ways to write a double with a number of digits, the nearer one first. -/
def neighbours (numerator denominator count : Nat) : List Digits :=
  let exponent := lastPlace numerator denominator count
  let (upper, lower) :=
    if 0 ≤ exponent then (numerator, denominator * Nat.pow 10 exponent.toNat)
    else (numerator * Nat.pow 10 (-exponent).toNat, denominator)
  let below := upper / lower
  let near := roundedQuotient upper lower
  let far := if near = below then below + 1 else below
  [{ digits := near, exponent }, { digits := far, exponent }]

/-- The fewest digits that stand for a double, and of those the nearest; seventeen always do. -/
def shortest (value : Double) : Digits :=
  if value.mantissa = 0 then { digits := 0, exponent := 0 }
  else
    let (numerator, denominator) := asFraction 2 value.mantissa value.exponent
    let written := (List.range 17).flatMap fun count => neighbours numerator denominator (count + 1)
    let fits (decimal : Digits) : Bool := nearest? decimal == some value
    (written.find? fits).getD { digits := 0, exponent := 0 }

end ModuleAlias.Decimal
