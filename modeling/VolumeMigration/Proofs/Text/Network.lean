import VolumeMigration.Proofs.Text.Split
import VolumeMigration.Text.Network

/-!
# The characters of addresses

An address of eight groups consists of the characters of names and of colons, and there is a colon
in it; so it is never a name or an address of four octets.
-/

namespace VolumeMigration

namespace Network

/-- A character of a name or of an address of four octets. -/
def isNameChar (char : Char) : Bool :=
  isLabelChar char || char == '.'

variable {char : Char} {chars : List Char}

theorem isNameChar_of_isAlphanum (alphanumeric : char.isAlphanum = true) :
    isNameChar char = true := by
  simp [isNameChar, isLabelChar, alphanumeric]

theorem isNameChar_of_isDigit (digit : char.isDigit = true) : isNameChar char = true :=
  isNameChar_of_isAlphanum (Bool.or_eq_true_iff.mpr (.inr digit))

theorem isNameChar_of_isAlpha (letter : char.isAlpha = true) : isNameChar char = true :=
  isNameChar_of_isAlphanum (Bool.or_eq_true_iff.mpr (.inl letter))

theorem isNameChar_of_hexDigit (hexadecimal : (Text.hexDigit? char).isSome = true) :
    isNameChar char = true := by
  unfold Text.hexDigit? at hexadecimal
  split at hexadecimal
  next digit => exact isNameChar_of_isDigit digit
  · split at hexadecimal
    next lower =>
      have until_z := UInt32.le_trans lower.2 (by decide : ('f').val ≤ ('z').val)
      have letter : char.isLower = true :=
        Bool.and_eq_true_iff.mpr ⟨decide_eq_true lower.1, decide_eq_true until_z⟩
      exact isNameChar_of_isAlpha (Bool.or_eq_true_iff.mpr (.inr letter))
    · split at hexadecimal
      next upper =>
        have until_z := UInt32.le_trans upper.2 (by decide : ('F').val ≤ ('Z').val)
        have letter : char.isUpper = true := decide_eq_true ⟨upper.1, until_z⟩
        exact isNameChar_of_isAlpha (Bool.or_eq_true_iff.mpr (.inl letter))
      · cases hexadecimal

theorem isNameChar_of_isFourOctets (address : isFourOctets chars = true) :
    ∀ char ∈ chars, isNameChar char = true := by
  intro char char_mem
  simp only [isFourOctets, Bool.and_eq_true, List.all_eq_true] at address
  rcases Text.mem_splitChars '.' char_mem with rfl | ⟨piece, piece_mem, char_mem⟩
  · rfl
  · have octet := address.2 piece piece_mem
    simp only [isOctet, Bool.and_eq_true, List.all_eq_true] at octet
    exact isNameChar_of_isDigit (octet.1.1.1.2 char char_mem)

/-- The parts beside two colons make up the whole. -/
theorem cutAtColons_eq_some {front back : List Char}
    (cut : cutAtColons chars = some (front, back)) : chars = front ++ ':' :: ':' :: back := by
  fun_induction cutAtColons chars generalizing front with
  | case1 rest => simp_all
  | case2 => cases cut
  | case3 char rest _ ih =>
      rcases Option.map_eq_some_iff.mp cut with ⟨⟨before, behind⟩, found, parts⟩
      cases parts
      rw [ih found, List.cons_append]

/-- A character of an address of eight groups. -/
def isAddressChar (char : Char) : Bool :=
  isNameChar char || char == ':'

/-- The groups of an address consist of characters of names. -/
theorem isNameChar_of_groups? {octetsAllowed : Bool} {count : Nat}
    (counted : groups? octetsAllowed chars = some count) :
    ∀ piece ∈ Text.splitChars ':' chars, ∀ char ∈ piece, isNameChar char = true := by
  have of_group : ∀ piece : List Char, (!piece.isEmpty && piece.length ≤ 4 &&
      piece.all fun char => (Text.hexDigit? char).isSome) = true →
      ∀ char ∈ piece, isNameChar char = true := by
    intro piece group char char_mem
    rw [Bool.and_eq_true, List.all_eq_true] at group
    exact isNameChar_of_hexDigit (group.2 char char_mem)
  intro piece piece_mem
  unfold groups? at counted
  split at counted
  next empty =>
    rw [List.isEmpty_iff.mp empty] at piece_mem
    simp [List.mem_singleton.mp piece_mem]
  · dsimp only at counted
    split at counted
    next groups => exact of_group piece (List.all_eq_true.mp groups piece piece_mem)
    · split at counted
      next octets =>
        rw [Bool.and_eq_true, Bool.and_eq_true, List.all_eq_true] at octets
        rcases (Option.any_eq_true _ _).mp octets.2 with ⟨last, last_eq, address⟩
        rcases List.getLast?_eq_some_iff.mp last_eq with ⟨front, parts⟩
        rw [parts, List.dropLast_concat] at octets
        rw [parts] at piece_mem
        rcases List.mem_append.mp piece_mem with front_mem | last_mem
        · exact of_group piece (octets.1.2 piece front_mem)
        · rw [List.mem_singleton.mp last_mem]
          exact isNameChar_of_isFourOctets address
      · cases counted

theorem isAddressChar_of_groups? {octetsAllowed : Bool} {count : Nat}
    (counted : groups? octetsAllowed chars = some count) :
    ∀ char ∈ chars, isAddressChar char = true := by
  intro char char_mem
  rcases Text.mem_splitChars ':' char_mem with rfl | ⟨piece, piece_mem, char_mem⟩
  · rfl
  · simp [isAddressChar, isNameChar_of_groups? counted piece piece_mem char char_mem]

theorem colon_mem_of_groups? {octetsAllowed : Bool} {count : Nat}
    (counted : groups? octetsAllowed chars = some count) (several : 2 < count) :
    ':' ∈ chars := by
  apply Decidable.byContradiction
  intro not_mem
  rw [groups?, Text.splitChars_of_not_mem not_mem] at counted
  grind

/-- An address of eight groups has no brackets, blanks or slashes. -/
theorem isAddressChar_of_isEightGroups (address : isEightGroups chars = true) :
    ∀ char ∈ chars, isAddressChar char = true := by
  unfold isEightGroups at address
  split at address
  · exact isAddressChar_of_groups? (of_decide_eq_true address)
  next front back cut =>
    split at address
    next before behind front_groups back_groups =>
      have front_chars := isAddressChar_of_groups? front_groups
      have back_chars := isAddressChar_of_groups? back_groups
      rw [cutAtColons_eq_some cut]
      simp only [List.forall_mem_append, List.forall_mem_cons]
      exact ⟨front_chars, rfl, rfl, back_chars⟩
    · cases address

/-- An address of eight groups has a colon. -/
theorem colon_mem_of_isEightGroups (address : isEightGroups chars = true) : ':' ∈ chars := by
  unfold isEightGroups at address
  split at address
  · exact colon_mem_of_groups? (of_decide_eq_true address) (by decide)
  next front back cut => simp [cutAtColons_eq_some cut]

end Network

end VolumeMigration
