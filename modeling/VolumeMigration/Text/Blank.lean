/-!
# Blank characters

`Text.isBlank` is the Unicode property White_Space, and `Text.trimBlanks` removes blanks from both
ends of a text.
-/

namespace VolumeMigration

namespace Text

/-- Whether a character is white space in the sense of Unicode. -/
def isBlank (char : Char) : Bool :=
  let code := char.toNat
  (0x09 ≤ code && code ≤ 0x0d) || code == 0x20 || code == 0x85 || code == 0xa0 ||
    code == 0x1680 || (0x2000 ≤ code && code ≤ 0x200a) || code == 0x2028 || code == 0x2029 ||
    code == 0x202f || code == 0x205f || code == 0x3000

/-- Every ASCII blank is a blank. -/
theorem isBlank_of_isWhitespace (char : Char) (blank : char.isWhitespace = true) :
    isBlank char = true := by
  simp only [Char.isWhitespace, Bool.or_eq_true, decide_eq_true_eq] at blank
  rcases blank with ((rfl | rfl) | rfl) | rfl <;> decide

/-- The characters of a text without the blanks at both ends. -/
def trimBlankChars (chars : List Char) : List Char :=
  ((chars.dropWhile isBlank).reverse.dropWhile isBlank).reverse

/-- A text without the blanks at both ends. -/
def trimBlanks (text : String) : String :=
  String.ofList (trimBlankChars text.toList)

end Text

end VolumeMigration
