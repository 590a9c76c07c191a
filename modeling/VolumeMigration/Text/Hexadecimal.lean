/-!
# Hexadecimal digits

`Text.hexDigit?` reads one digit in either case, and `Text.hexadecimal` writes a number in lower
case.
-/

namespace VolumeMigration

namespace Text

/-- The value of a digit of base sixteen. -/
def hexDigit? (char : Char) : Option Nat :=
  if char.isDigit then some (char.toNat - '0'.toNat)
  else if 'a' ≤ char ∧ char ≤ 'f' then some (char.toNat - 'a'.toNat + 10)
  else if 'A' ≤ char ∧ char ≤ 'F' then some (char.toNat - 'A'.toNat + 10)
  else none

/-- The lower-case hexadecimal digits of a number, without leading zeros. -/
def hexadecimal (number : Nat) : String :=
  String.ofList (Nat.toDigits 16 number)

end Text

end VolumeMigration
