import Mathlib.Data.List.Induction
import VolumeMigration.Key.Base64

/-!
# Base64 reads back

Every three bytes are four digits and every four digits three bytes, so that what
`Base64.decodeChars?` reads in an encoding is what `Base64.encodeChars` was given
(`Base64.decodeChars?_encodeChars`). An encoding consists of
characters of `Base64.alphabet` only, so it can be kept in lines and between blanks.
-/

namespace VolumeMigration

namespace Base64

/-- Each of the digits stands for one value. -/
@[simp] theorem value?_digit {value : Nat} (below : value < 64) :
    value? (digit value) = some value := by
  have every : ∀ value ∈ List.range 64, value? (digit value) = some value := by decide
  exact every value (List.mem_range.mpr below)

/-- A digit is not the padding. -/
theorem digit_ne_padding {value : Nat} (below : value < 64) : digit value ≠ '=' := by
  have every : ∀ value ∈ List.range 64, digit value ≠ '=' := by decide
  exact every value (List.mem_range.mpr below)

/-- Four digits are read as three bytes in front of the others. -/
theorem decodeChars?_cons {first second third fourth : Nat} (rest : List Char)
    (first_below : first < 64) (second_below : second < 64) (third_below : third < 64)
    (fourth_below : fourth < 64) :
    decodeChars? (digit first :: digit second :: digit third :: digit fourth :: rest) =
      (decodeChars? rest).map fun others =>
        let bits := ((first * 64 + second) * 64 + third) * 64 + fourth
        UInt8.ofNat (bits / 65536) :: UInt8.ofNat (bits / 256 % 256) ::
          UInt8.ofNat (bits % 256) :: others := by
  have unpadded := digit_ne_padding fourth_below
  rw [decodeChars?]
  · simp [first_below, second_below, third_below, fourth_below]
    cases decodeChars? rest <;> rfl
  · intro _ same _
    exact unpadded same
  · intro same _
    exact unpadded same

/-- What is encoded is read back. -/
@[simp] theorem decodeChars?_encodeChars (bytes : List UInt8) :
    decodeChars? (encodeChars bytes) = some bytes := by
  induction bytes using encodeChars.induct with
  | case1 => rfl
  | case2 first =>
      have first_below := first.toNat_lt
      have high : first.toNat * 16 / 64 < 64 := by omega
      have low : first.toNat * 16 % 64 < 64 := by omega
      have joined : first.toNat * 16 / 64 * 64 + first.toNat * 16 % 64 = first.toNat * 16 := by
        omega
      simp [encodeChars, decodeChars?, high, low, joined]
  | case3 first second =>
      have first_below := first.toNat_lt
      have second_below := second.toNat_lt
      simp only [encodeChars]
      generalize bits_eq : (first.toNat * 256 + second.toNat) * 4 = bits
      have high : bits / 4096 < 64 := by omega
      have middle : bits / 64 % 64 < 64 := by omega
      have low : bits % 64 < 64 := by omega
      have joined : (bits / 4096 * 64 + bits / 64 % 64) * 64 + bits % 64 = bits := by omega
      have first_back : bits / 1024 = first.toNat := by omega
      have second_back : bits / 4 % 256 = second.toNat := by omega
      have whole : bits % 4 = 0 := by omega
      rw [decodeChars?]
      · simp only [value?_digit high, value?_digit middle, value?_digit low, joined, first_back,
          second_back, whole, UInt8.ofNat_toNat, Option.bind_eq_bind, Option.bind_some, if_true]
      · exact digit_ne_padding low
  | case4 first second third rest ih =>
      have first_below := first.toNat_lt
      have second_below := second.toNat_lt
      have third_below := third.toNat_lt
      simp only [encodeChars]
      generalize bits_eq : (first.toNat * 256 + second.toNat) * 256 + third.toNat = bits
      have joined : ((bits / 262144 * 64 + bits / 4096 % 64) * 64 + bits / 64 % 64) * 64 +
          bits % 64 = bits := by omega
      have first_back : bits / 65536 = first.toNat := by omega
      have second_back : bits / 256 % 256 = second.toNat := by omega
      have third_back : bits % 256 = third.toNat := by omega
      rw [decodeChars?_cons _ (by omega) (by omega) (by omega) (by omega), ih]
      simp only [joined, first_back, second_back, third_back, Option.map_some, UInt8.ofNat_toNat]

/-- The characters that an encoding is made of. -/
def alphabet : List Char :=
  '=' :: (List.range 64).map digit

theorem padding_mem_alphabet : '=' ∈ alphabet :=
  List.mem_cons_self

theorem digit_mem_alphabet {value : Nat} (below : value < 64) : digit value ∈ alphabet :=
  List.mem_cons_of_mem _ (List.mem_map_of_mem (List.mem_range.mpr below))

/-- Only digits and the padding are written. -/
theorem encodeChars_subset_alphabet (bytes : List UInt8) : encodeChars bytes ⊆ alphabet := by
  induction bytes using encodeChars.induct with
  | case1 => exact List.nil_subset _
  | case2 first =>
      have first_below := first.toNat_lt
      simp only [encodeChars, List.cons_subset, List.nil_subset, and_true]
      refine ⟨digit_mem_alphabet ?_, digit_mem_alphabet ?_, padding_mem_alphabet,
        padding_mem_alphabet⟩ <;> omega
  | case3 first second =>
      have first_below := first.toNat_lt
      have second_below := second.toNat_lt
      simp only [encodeChars, List.cons_subset, List.nil_subset, and_true]
      refine ⟨digit_mem_alphabet ?_, digit_mem_alphabet ?_, digit_mem_alphabet ?_,
        padding_mem_alphabet⟩ <;> omega
  | case4 first second third rest ih =>
      have first_below := first.toNat_lt
      have second_below := second.toNat_lt
      have third_below := third.toNat_lt
      simp only [encodeChars, List.cons_subset]
      refine ⟨digit_mem_alphabet ?_, digit_mem_alphabet ?_, digit_mem_alphabet ?_,
        digit_mem_alphabet ?_, ih⟩ <;> omega

/-- A character outside the alphabet does not occur in an encoding. -/
theorem not_mem_encodeChars {char : Char} (foreign : char ∉ alphabet) (bytes : List UInt8) :
    char ∉ encodeChars bytes :=
  fun occurs => foreign (encodeChars_subset_alphabet bytes occurs)

end Base64

end VolumeMigration
