import VolumeMigration.Numeral.Basic

/-!
# Binary numbers of 64 bits

A finite binary number of 64 bits is `mantissa * 2 ^ exponent` with a mantissa below 2^53 and an
exponent from -1074 on. `Binary64.nearest?` rounds a numeral to the nearest one, a tie to the even
mantissa; a numeral that would round beyond the largest has none.
-/

namespace VolumeMigration

/-- A finite binary number of 64 bits without its sign. -/
structure Binary64 where
  mantissa : Nat
  exponent : Int
  deriving DecidableEq

namespace Binary64

/-- A power of two. -/
def pow2 (exponent : Nat) : Nat := Nat.pow 2 exponent

/-- Zero. -/
def zero : Binary64 := ⟨0, -1074⟩

/-- The quotient of two numbers rounded to the nearest one, a tie to the even one. -/
def roundedQuotient (numerator denominator : Nat) : Nat :=
  let quotient := numerator / denominator
  let rest := numerator % denominator
  if denominator < 2 * rest ∨ (denominator = 2 * rest ∧ quotient % 2 = 1) then quotient + 1
  else quotient

/-- The exponent of the largest power of two that is not above a positive quotient. -/
def logQuotient (numerator denominator : Nat) : Int :=
  let guess : Int := (Nat.log2 numerator : Int) - Nat.log2 denominator
  let fits : Bool :=
    if 0 ≤ guess then denominator * pow2 guess.toNat ≤ numerator
    else denominator ≤ numerator * pow2 (-guess).toNat
  if fits then guess else guess - 1

/-- A positive quotient divided by a power of two, rounded. -/
def scaled (numerator denominator : Nat) (exponent : Int) : Nat :=
  if 0 ≤ exponent then roundedQuotient numerator (denominator * pow2 exponent.toNat)
  else roundedQuotient (numerator * pow2 (-exponent).toNat) denominator

/-- The number nearest to a positive quotient, unless that is beyond the largest one. -/
def ofQuotient? (numerator denominator : Nat) : Option Binary64 :=
  let exponent := max (logQuotient numerator denominator - 52) (-1074)
  let mantissa := scaled numerator denominator exponent
  let rounded : Binary64 :=
    if mantissa = pow2 53 then ⟨pow2 52, exponent + 1⟩ else ⟨mantissa, exponent⟩
  if rounded.exponent ≤ 971 then some rounded else none

/-- The number nearest to a numeral, without its sign. Far outside the range of exponents the size
of the numeral decides. -/
def nearest? (numeral : Numeral) : Option Binary64 :=
  let size : Int := (Nat.toDigits 10 numeral.digits).length + numeral.exponent
  if numeral.digits = 0 then some zero
  else if 400 < size then none
  else if size < -400 then some zero
  else if 0 ≤ numeral.exponent then
    ofQuotient? (numeral.digits * Nat.pow 10 numeral.exponent.toNat) 1
  else ofQuotient? numeral.digits (Nat.pow 10 (-numeral.exponent).toNat)

/-- Half of the smallest positive number is a tie, and zero is even. -/
example : ofQuotient? 1 (pow2 1075) = some zero := by decide +kernel

/-- The sum of one tenth and two tenths of a numeral is nearest to a number above three tenths. -/
example : nearest? ⟨false, 3, -1⟩ = some ⟨5404319552844595, -54⟩ := by decide +kernel

end Binary64

end VolumeMigration
