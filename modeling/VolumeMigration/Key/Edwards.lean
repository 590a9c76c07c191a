import VolumeMigration.Key.Sha512

/-!
# Ed25519 public keys

The curve `-x² + y² = 1 + d x² y²` over the integers modulo `2²⁵⁵ - 19`, in extended coordinates.
A seed is hashed; the first half of the hash, with its lowest three bits cleared and its highest
bit set, multiplies the base point, and the public key is the point written in 32 bytes
(`Ed25519.publicKey`).
-/

namespace VolumeMigration

namespace Ed25519

/-- The order of the field. -/
def fieldOrder : Nat := Nat.pow 2 255 - 19

/-- The coefficient of the curve. -/
def coefficient : Nat :=
  37095705934669439343138083508754565189542113879843219016388785533085940283555

/-- A sum in the field. -/
def add (left right : Nat) : Nat := (left + right) % fieldOrder

/-- A difference in the field. -/
def sub (left right : Nat) : Nat := (left + fieldOrder - right % fieldOrder) % fieldOrder

/-- A product in the field. -/
def mul (left right : Nat) : Nat := left * right % fieldOrder

/-- A power in the field, by repeated squaring. -/
def power (base exponent : Nat) : Nat :=
  if exponent = 0 then 1
  else
    let half := power (mul base base) (exponent / 2)
    if exponent % 2 = 1 then mul base half else half
termination_by exponent

/-- The inverse of an element that is not zero. -/
def inverse (element : Nat) : Nat := power element (fieldOrder - 2)

/-- A point of the curve: `x / z` and `y / z` are its coordinates and `t / z` their product. -/
structure Point where
  x : Nat
  y : Nat
  z : Nat
  t : Nat

namespace Point

/-- The neutral point. -/
def zero : Point := ⟨0, 1, 1, 0⟩

/-- The base point. -/
def base : Point :=
  let x := 15112221349535400772501151409588531511454012693041857206046113283949847762202
  let y := 46316835694926478169428394003475163141307993866256225615783033603165251855960
  ⟨x, y, 1, mul x y⟩

/-- The sum of two points; it holds for equal points too. -/
def add (left right : Point) : Point :=
  let a := mul (sub left.y left.x) (sub right.y right.x)
  let b := mul (Ed25519.add left.y left.x) (Ed25519.add right.y right.x)
  let c := mul (mul (mul left.t 2) coefficient) right.t
  let d := mul (mul left.z 2) right.z
  let e := sub b a
  let f := sub d c
  let g := Ed25519.add d c
  let h := Ed25519.add b a
  ⟨mul e f, mul g h, mul f g, mul e h⟩

/-- A multiple of a point, by repeated doubling. -/
def multiply (point : Point) (count : Nat) : Point :=
  if count = 0 then zero
  else
    let half := multiply (point.add point) (count / 2)
    if count % 2 = 1 then point.add half else half
termination_by count

/-- A point in 32 bytes, the least significant first: its `y`, and the lowest bit of its `x` as
the highest bit. -/
def encode (point : Point) : List UInt8 :=
  let scale := inverse point.z
  let x := mul point.x scale
  let y := mul point.y scale
  (Sha512.bytesOfNat 32 (y + (x % 2) * Nat.pow 2 255)).reverse

end Point

/-- The multiplier that a seed stands for. -/
def secretScalar (seed : List UInt8) : Nat :=
  let number := Sha512.natOfBytes ((Sha512.hash seed).take 32).reverse
  Nat.pow 2 254 + number % Nat.pow 2 254 / 8 * 8

/-- The public key of a seed. -/
def publicKey (seed : List UInt8) : List UInt8 :=
  (Point.base.multiply (secretScalar seed)).encode

end Ed25519

end VolumeMigration
