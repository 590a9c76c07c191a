/-!
# Numerals

A numeral is a number in decimal notation: digits, perhaps with a point among them, and perhaps an
exponent. `Numeral.parse?` reads one and keeps its exact value, a whole number of digits times a
power of ten.
-/

namespace VolumeMigration

/-- The number `digits * 10 ^ exponent`, with a sign that zero has as well. -/
structure Numeral where
  negative : Bool
  digits : Nat
  exponent : Int
  deriving DecidableEq

namespace Numeral

/-- The number that decimal digits stand for. -/
def ofDigits (digits : List Char) : Nat :=
  digits.foldl (fun value digit => value * 10 + (digit.toNat - '0'.toNat)) 0

/-- The number behind an exponent letter. -/
def exponent? (chars : List Char) : Option Int :=
  let number? (digits : List Char) : Option Nat :=
    if !digits.isEmpty && digits.all Char.isDigit then some (ofDigits digits) else none
  match chars with
  | '-' :: digits => (number? digits).map fun value => -(value : Int)
  | '+' :: digits => (number? digits).map Int.ofNat
  | digits => (number? digits).map Int.ofNat

/-- The numeral with some digits before the point and some behind it, and what follows them. -/
def ofParts? (negative : Bool) (whole decimals rest : List Char) : Option Numeral :=
  if whole.isEmpty && decimals.isEmpty then none
  else do
    let shift ←
      match rest with
      | [] => some 0
      | letter :: chars => if letter == 'e' || letter == 'E' then exponent? chars else none
    return {
      negative
      digits := ofDigits (whole ++ decimals)
      exponent := shift - decimals.length }

/-- Reads a numeral without a sign. -/
def parseUnsigned? (negative : Bool) (chars : List Char) : Option Numeral :=
  let whole := chars.takeWhile Char.isDigit
  match chars.dropWhile Char.isDigit with
  | '.' :: more =>
      ofParts? negative whole (more.takeWhile Char.isDigit) (more.dropWhile Char.isDigit)
  | rest => ofParts? negative whole [] rest

/-- Reads a numeral: a sign, if there is one, then digits with at most one point, at least one digit
in all, and perhaps an exponent. -/
def parse? (chars : List Char) : Option Numeral :=
  match chars with
  | '-' :: rest => parseUnsigned? true rest
  | '+' :: rest => parseUnsigned? false rest
  | rest => parseUnsigned? false rest

end Numeral

end VolumeMigration
