/-!
# Base64

The encoding with the standard alphabet: three bytes become four characters, and a
shorter rest is padded with `=`. `Base64.decode?` reads exactly what `Base64.encode` writes.
-/

namespace VolumeMigration

namespace Base64

/-- The character of a number below 64. -/
def digit (value : Nat) : Char :=
  if value < 26 then Char.ofNat ('A'.toNat + value)
  else if value < 52 then Char.ofNat ('a'.toNat + (value - 26))
  else if value < 62 then Char.ofNat ('0'.toNat + (value - 52))
  else if value = 62 then '+'
  else '/'

/-- The characters of some bytes. -/
def encodeChars : List UInt8 → List Char
  | [] => []
  | [first] =>
      let bits := first.toNat * 16
      [digit (bits / 64), digit (bits % 64), '=', '=']
  | [first, second] =>
      let bits := (first.toNat * 256 + second.toNat) * 4
      [digit (bits / 4096), digit (bits / 64 % 64), digit (bits % 64), '=']
  | first :: second :: third :: rest =>
      let bits := (first.toNat * 256 + second.toNat) * 256 + third.toNat
      digit (bits / 262144) :: digit (bits / 4096 % 64) :: digit (bits / 64 % 64) ::
        digit (bits % 64) :: encodeChars rest

/-- The text of some bytes. -/
def encode (bytes : List UInt8) : String :=
  String.ofList (encodeChars bytes)

/-- The number below 64 that a character stands for. -/
def value? (char : Char) : Option Nat :=
  if char.isUpper then some (char.toNat - 'A'.toNat)
  else if char.isLower then some (char.toNat - 'a'.toNat + 26)
  else if char.isDigit then some (char.toNat - '0'.toNat + 52)
  else if char = '+' then some 62
  else if char = '/' then some 63
  else none

/-- The bytes that some characters stand for. Bits that are left over are zero. -/
def decodeChars? : List Char → Option (List UInt8)
  | [] => some []
  | [first, second, '=', '='] => do
      let bits := (← value? first) * 64 + (← value? second)
      if bits % 16 = 0 then some [UInt8.ofNat (bits / 16)] else none
  | [first, second, third, '='] => do
      let bits := ((← value? first) * 64 + (← value? second)) * 64 + (← value? third)
      if bits % 4 = 0 then some [UInt8.ofNat (bits / 1024), UInt8.ofNat (bits / 4 % 256)] else none
  | first :: second :: third :: fourth :: rest => do
      let bits :=
        (((← value? first) * 64 + (← value? second)) * 64 + (← value? third)) * 64 +
          (← value? fourth)
      let others ← decodeChars? rest
      return UInt8.ofNat (bits / 65536) :: UInt8.ofNat (bits / 256 % 256) ::
        UInt8.ofNat (bits % 256) :: others
  | _ => none

/-- The bytes that a text stands for. -/
def decode? (text : String) : Option (List UInt8) :=
  decodeChars? text.toList

/-- A rest of one byte is padded with two characters. -/
example : decodeChars? ['A', 'Q', '=', '='] = some [1] := by decide

end Base64

end VolumeMigration
