/-!
# Splitting a text at a separator

`Text.split` gives the pieces of a text between the occurrences of a separator, empty pieces
included, so that joining them with the separator gives the text back.
-/

namespace VolumeMigration

namespace Text

/-- The pieces of a list of characters between the occurrences of a separator. -/
def splitChars (separator : Char) : List Char → List (List Char)
  | [] => [[]]
  | char :: rest =>
      if char = separator then [] :: splitChars separator rest
      else
        match splitChars separator rest with
        | [] => [[char]]
        | piece :: pieces => (char :: piece) :: pieces

/-- Joining the pieces with the separator gives the characters back. -/
theorem intercalate_splitChars (separator : Char) (chars : List Char) :
    List.intercalate [separator] (splitChars separator chars) = chars := by
  induction chars with
  | nil => rfl
  | cons char rest ih =>
      cases pieces : splitChars separator rest with
      | nil =>
          rw [pieces] at ih
          by_cases same : char = separator <;> simp_all [splitChars, List.intercalate]
      | cons piece more =>
          rw [pieces] at ih
          by_cases same : char = separator
          · simp_all [splitChars, List.intercalate]
          · cases more <;> simp_all [splitChars, List.intercalate]

/-- The pieces of a text between the occurrences of a separator. -/
def split (separator : Char) (text : String) : List String :=
  (splitChars separator text.toList).map String.ofList

end Text

end VolumeMigration
