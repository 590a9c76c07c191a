import VolumeMigration.Json.Reader
import VolumeMigration.Key.Base64
import VolumeMigration.Time.Timestamp

/-!
# The shape of JSON values

A shape says of which type a value is, and a record which fields it may have. `Shape.admits` tells
whether a value is of a shape. Every field may be absent or null, and fields that a record does not
know are ignored; of a field that occurs twice, both values are looked at.

`Shape.settled` is a value as it is written again after it was read: without fields that are null or
not known, and with a standard value for those that must have one.
-/

namespace VolumeMigration

namespace Json

/-- The type of JSON values. -/
inductive Shape where
  | text
  | flag
  /-- An integer of some bits with a sign. -/
  | integer (bits : Nat)
  | timestamp
  /-- An integer of 32 bits, or a text. -/
  | numberOrName
  /-- Bytes in Base64; null stands for none. -/
  | bytes
  /-- Any value that can be taken over in every part. -/
  | anything
  | list (element : Shape)
  | dictionary (value : Shape)
  /-- An object with some fields, of which some must have a value. -/
  | compound (required : List String) (fields : List (String × Shape))
  deriving Inhabited

namespace Shape

/-- Whether an integer takes at most some bits, one of them for the sign. -/
def fits (bits : Nat) (value : Int) : Bool :=
  let limit := Int.ofNat (Nat.pow 2 (bits - 1))
  Int.neg limit ≤ value && value < limit

/-- Whether a value that is no array and no object is of a shape. -/
def admitsScalar (shape : Shape) (value : Json) : Bool :=
  match shape, value with
  | .text, .string _ => true
  | .flag, .bool _ => true
  | .integer bits, .integer value => fits bits value
  | .timestamp, .string value => (Timestamp.parse? value).isSome
  | .numberOrName, .integer value => fits 32 value
  | .numberOrName, .string _ => true
  | .bytes, .null => true
  | .bytes, .string value => (Base64.decode? value).isSome
  | _, _ => false

mutual

/-- Whether a value is of a shape, given how deep what is taken over may be nested. -/
def admits (shape : Shape) (depth : Nat) (json : Json) : Bool :=
  match shape, json with
  | .anything, json => isWhole depth json
  | .list element, .array elements => admitsElements element (depth - 1) elements
  | .dictionary value, .object members => admitsValues value (depth - 1) members
  | .compound _ fields, .object members => admitsFields fields (depth - 1) members
  | shape, json => admitsScalar shape json

/-- Whether all elements of an array are of a shape. -/
def admitsElements (shape : Shape) (depth : Nat) : List Json → Bool
  | [] => true
  | element :: rest => admits shape depth element && admitsElements shape depth rest

/-- Whether all members of an object have values of a shape. -/
def admitsValues (shape : Shape) (depth : Nat) : List (String × Json) → Bool
  | [] => true
  | (_, value) :: rest => admits shape depth value && admitsValues shape depth rest

/-- Whether all members of an object that are fields of a record have values of their shapes. -/
def admitsFields (fields : List (String × Shape)) (depth : Nat) : List (String × Json) → Bool
  | [] => true
  | (name, value) :: rest =>
      (match fields.lookup name with
        | none => true
        | some shape => value.isNull || admits shape depth value) &&
        admitsFields fields depth rest

end

/-! ## What is written again -/

mutual

/-- The value of a field that must have one but is not given. -/
def standard : Shape → Json
  | .text | .bytes => .string ""
  | .flag => .bool false
  | .integer _ | .numberOrName => .integer 0
  | .timestamp => .string Instant.epoch.text
  | .anything => .null
  | .list _ => .array []
  | .dictionary _ => .object []
  | .compound required fields => .object (standardFields required fields)

/-- The fields of a record of which none is given. -/
def standardFields (required : List String) : List (String × Shape) → List (String × Json)
  | [] => []
  | (name, shape) :: rest =>
      let others := standardFields required rest
      if required.contains name then (name, standard shape) :: others else others

end

/-- A value that is no array and no object, as it is written again. -/
def settledScalar (shape : Shape) (value : Json) : Json :=
  match shape, value with
  | .bytes, .null => .string ""
  | .timestamp, .string written =>
      .string (((Timestamp.parse? written).map Timestamp.universalText).getD written)
  | _, value => value

/-- Of several members with a name, the last one, in the place of the first. -/
def latest (members : List (String × Json)) : List (String × Json) :=
  members.foldl
    (fun known member =>
      if known.any (·.1 == member.1) then
        known.map fun other => if other.1 == member.1 then member else other
      else known ++ [member])
    []

/-- The fields of a record that are written, where some members were given. -/
def present (required : List String) (fields : List (String × Shape))
    (given : List (String × Json)) : List (String × Json) :=
  fields.filterMap fun field =>
    match given.reverse.lookup field.1 with
    | none | some .null =>
        if required.contains field.1 then some (field.1, standard field.2) else none
    | some value => some (field.1, value)

mutual

/-- A value of a shape as it is written again. -/
def settled (shape : Shape) (json : Json) : Json :=
  match shape, json with
  | .list element, .array elements => .array (settledElements element elements)
  | .dictionary value, .object members => .object (latest (settledValues value members))
  | .compound required fields, .object members =>
      .object (present required fields (settledFields fields members))
  | shape, json => settledScalar shape json

/-- The elements of an array as they are written again. -/
def settledElements (shape : Shape) : List Json → List Json
  | [] => []
  | element :: rest => settled shape element :: settledElements shape rest

/-- The members of an object, whose values have a shape, as they are written again. -/
def settledValues (shape : Shape) : List (String × Json) → List (String × Json)
  | [] => []
  | (name, value) :: rest => (name, settled shape value) :: settledValues shape rest

/-- The members of an object that are fields of a record, as they are written again; null ones
are kept. -/
def settledFields (fields : List (String × Shape)) : List (String × Json) → List (String × Json)
  | [] => []
  | (name, value) :: rest =>
      let others := settledFields fields rest
      match fields.lookup name with
      | none => others
      | some shape => (name, if value.isNull then .null else settled shape value) :: others

end

/-! ## Records -/

/-- An object with typed fields and nothing else that is required. -/
def record (fields : List (String × Shape)) : Shape := .compound [] fields

/-- Fields that hold texts. -/
def texts (names : List String) : List (String × Shape) := names.map fun name => (name, .text)

/-- Fields that hold truth values. -/
def flags (names : List String) : List (String × Shape) := names.map fun name => (name, .flag)

/-- Fields that hold integers of 32 bits. -/
def counts (names : List String) : List (String × Shape) :=
  names.map fun name => (name, .integer 32)

/-- Fields that hold integers of 64 bits. -/
def longs (names : List String) : List (String × Shape) :=
  names.map fun name => (name, .integer 64)

/-- Fields that hold lists of texts. -/
def textLists (names : List String) : List (String × Shape) :=
  names.map fun name => (name, .list .text)

/-- Fields that hold texts by their names. -/
def textMaps (names : List String) : List (String × Shape) :=
  names.map fun name => (name, .dictionary .text)

/-- Fields that hold times. -/
def timestamps (names : List String) : List (String × Shape) :=
  names.map fun name => (name, .timestamp)

/-- Fields that share one shape. -/
def all (names : List String) (shape : Shape) : List (String × Shape) :=
  names.map fun name => (name, shape)

end Shape

end Json

end VolumeMigration
