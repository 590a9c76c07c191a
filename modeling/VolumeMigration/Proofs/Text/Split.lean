import VolumeMigration.Text.Split

/-!
# The pieces of a text

What stands in a text that is joined from pieces, or split into them, stands in one of the pieces or
is a separator, and no separator stands in a piece. A text is split by splitting what is on either
side of a separator.
-/

namespace VolumeMigration

namespace Text

variable {separator char : Char} {chars : List Char}

theorem mem_intercalate {pieces : List (List Char)}
    (char_mem : char ∈ [separator].intercalate pieces) :
    char = separator ∨ ∃ piece ∈ pieces, char ∈ piece := by
  induction pieces with
  | nil => cases char_mem
  | cons piece rest ih =>
      cases rest with
      | nil =>
          rw [List.intercalate_singleton] at char_mem
          exact .inr ⟨piece, List.mem_cons_self, char_mem⟩
      | cons next rest =>
          rw [List.intercalate_cons_cons, List.mem_append, List.mem_append,
            List.mem_singleton] at char_mem
          rcases char_mem with (here | same) | later
          · exact .inr ⟨piece, List.mem_cons_self, here⟩
          · exact .inl same
          · rcases ih later with same | ⟨other, other_mem, char_mem⟩
            · exact .inl same
            · exact .inr ⟨other, List.mem_cons_of_mem _ other_mem, char_mem⟩

/-- Pieces with a separator behind each of them. -/
theorem intercalate_append_separator {pieces : List (List Char)} (filled : pieces ≠ []) :
    [separator].intercalate pieces ++ [separator] = pieces.flatMap (· ++ [separator]) := by
  induction pieces with
  | nil => contradiction
  | cons piece rest ih =>
      cases rest with
      | nil => simp [List.intercalate_singleton]
      | cons next rest =>
          have others := ih (List.cons_ne_nil next rest)
          rw [List.intercalate_cons_cons, List.append_assoc, others]
          simp

theorem mem_splitChars (separator : Char) (char_mem : char ∈ chars) :
    char = separator ∨ ∃ piece ∈ splitChars separator chars, char ∈ piece := by
  rw [← intercalate_splitChars separator chars] at char_mem
  exact mem_intercalate char_mem

theorem splitChars_of_not_mem (not_mem : separator ∉ chars) :
    splitChars separator chars = [chars] := by
  induction chars with
  | nil => rfl
  | cons first rest ih =>
      rw [List.mem_cons, not_or] at not_mem
      simp only [splitChars, if_neg (Ne.symm not_mem.1), ih not_mem.2]

theorem exists_splitChars_cons (separator : Char) (chars : List Char) :
    ∃ piece more, splitChars separator chars = piece :: more := by
  cases chars with
  | nil => exact ⟨[], [], rfl⟩
  | cons first rest =>
      simp only [splitChars]
      split
      · exact ⟨_, _, rfl⟩
      · split <;> exact ⟨_, _, rfl⟩

/-- A separator parts the pieces on its left from those on its right. -/
theorem splitChars_append_separator (before after : List Char) :
    splitChars separator (before ++ separator :: after) =
      splitChars separator before ++ splitChars separator after := by
  induction before with
  | nil => simp [splitChars]
  | cons first before ih =>
      by_cases same : first = separator
      · simp [splitChars, same, ih]
      · rcases exists_splitChars_cons separator before with ⟨piece, more, pieces⟩
        simp [splitChars, same, ih, pieces]

/-- The first piece ends at the first separator. -/
theorem splitChars_append {piece : List Char} (not_mem : separator ∉ piece) (rest : List Char) :
    splitChars separator (piece ++ separator :: rest) = piece :: splitChars separator rest := by
  rw [splitChars_append_separator, splitChars_of_not_mem not_mem, List.singleton_append]

/-- No piece has a separator in it. -/
theorem not_mem_of_mem_splitChars {piece : List Char}
    (piece_mem : piece ∈ splitChars separator chars) : separator ∉ piece := by
  induction chars generalizing piece with
  | nil =>
      rw [List.mem_singleton.mp piece_mem]
      exact List.not_mem_nil
  | cons first rest ih =>
      by_cases same : first = separator
      · simp only [splitChars, if_pos same] at piece_mem
        rcases List.mem_cons.mp piece_mem with rfl | later
        · exact List.not_mem_nil
        · exact ih later
      · rcases exists_splitChars_cons separator rest with ⟨next, more, pieces⟩
        rw [pieces] at ih
        simp only [splitChars, if_neg same, pieces] at piece_mem
        rcases List.mem_cons.mp piece_mem with rfl | later
        · rw [List.mem_cons, not_or]
          exact ⟨Ne.symm same, ih List.mem_cons_self⟩
        · exact ih (List.mem_cons_of_mem _ later)

theorem exists_split_cons (separator : Char) (text : String) :
    ∃ first rest, split separator text = first :: rest := by
  rcases exists_splitChars_cons separator text.toList with ⟨first, rest, pieces⟩
  exact ⟨_, _, congrArg (List.map String.ofList) pieces⟩

theorem not_mem_of_mem_split {text piece : String} (piece_mem : piece ∈ split separator text) :
    separator ∉ piece.toList := by
  rcases List.mem_map.mp piece_mem with ⟨piece, chars_mem, rfl⟩
  rw [String.toList_ofList]
  exact not_mem_of_mem_splitChars chars_mem

/-- Texts on both sides of a separator are cut on their own. -/
theorem split_append_separator (separator : Char) (before after : String) :
    split separator (before ++ String.singleton separator ++ after) =
      split separator before ++ split separator after := by
  simp [split, splitChars_append_separator]

/-- The pieces of a text, joined by separators, are the text. -/
theorem intercalate_split (separator : Char) (text : String) :
    (String.singleton separator).intercalate (split separator text) = text := by
  apply String.toList_inj.mp
  rw [String.toList_intercalate, split, List.map_map]
  simp [Function.comp_def, intercalate_splitChars]

/-- The lines of a text whose first lines are known. -/
theorem splitOn_lines {lines : List (List Char)} (unbroken : ∀ line ∈ lines, '\n' ∉ line)
    (rest : List Char) :
    (lines.flatMap (· ++ ['\n']) ++ rest).splitOn '\n' = lines ++ rest.splitOn '\n' := by
  induction lines with
  | nil => rfl
  | cons line lines ih =>
      rw [List.forall_mem_cons] at unbroken
      rw [List.flatMap_cons, List.append_assoc, List.append_assoc, List.singleton_append,
        List.splitOn_append_cons_self_of_not_mem unbroken.1, ih unbroken.2, List.cons_append]

/-- A number is written in digits. -/
theorem not_mem_toDigits (other : char.isDigit = false) (number : Nat) :
    char ∉ Nat.toDigits 10 number := by
  intro char_mem
  have digit := Nat.isDigit_of_mem_toDigits (by decide) (by decide) char_mem
  simp [other] at digit

end Text

end VolumeMigration
