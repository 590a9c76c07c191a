import VolumeMigration.Json.Value

/-!
# Decoding JSON into typed values

A decoder refuses a value of the wrong type. In an object, an absent member and a null one are the
same to `Decoder.optional`, which answers nothing for them, and to `Decoder.withDefault`, which
answers a default value; `Decoder.required` and `Decoder.ifGiven` tell them apart. What
`Decoder.record` reads may also be written as an array of its fields.
-/

namespace VolumeMigration

namespace Json

/-- A partial reading of JSON values as values of another type. -/
abbrev Decoder (α : Type) := Json → Option α

namespace Decoder

variable {α : Type}

/-- The text that a value is. -/
def text : Decoder String := Json.text?

/-- The truth value that a value is. -/
def flag : Decoder Bool := Json.bool?

/-- Reads an integer of 32 bits with a sign. -/
def int32 : Decoder Int
  | .integer value => if -2147483648 ≤ value ∧ value ≤ 2147483647 then some value else none
  | _ => none

/-- Reads an integer of 16 bits without a sign. -/
def nat16 : Decoder Nat
  | .integer value => if 0 ≤ value ∧ value.toNat < UInt16.size then some value.toNat else none
  | _ => none

/-- Reads an integer of 32 bits without a sign. -/
def nat32 : Decoder Nat
  | .integer value => if 0 ≤ value ∧ value.toNat < UInt32.size then some value.toNat else none
  | _ => none

/-- Any value, as it is. -/
def any : Decoder Json := some

/-- The elements of a list, all of one kind. -/
def list (element : Decoder α) : Decoder (List α)
  | .array elements => elements.mapM element
  | _ => none

/-- Reads an object whose members all have the same type. A later member takes the place of an
earlier one of the same name. -/
def dictionary (value : Decoder α) : Decoder (List (String × α))
  | .object members =>
      members.foldlM
        (fun known member => do
          let entry ← value member.2
          return known.filter (·.1 != member.1) ++ [(member.1, entry)])
        []
  | _ => none

/-- The value of a member. A member that is null counts as missing. -/
def optional (name : String) (value : Decoder α) (json : Json) : Option (Option α) :=
  match json.member? name with
  | none | some .null => some none
  | some member => (value member).map some

/-- Reads a member, or takes a default where it is absent. -/
def withDefault (name : String) (default : α) (value : Decoder α) (json : Json) : Option α :=
  (optional name value json).map (·.getD default)

/-- Reads a member that must be there; a null one is read like any other value. -/
def required (name : String) (value : Decoder α) (json : Json) : Option α :=
  (json.member? name).bind value

/-- Reads a member, or takes a default where there is none; a null one is read like any other
value. -/
def ifGiven (name : String) (default : α) (value : Decoder α) (json : Json) : Option α :=
  match json.member? name with
  | none => some default
  | some member => value member

/-- A value that has members at all. -/
def object (value : Decoder α) : Decoder α := fun json =>
  if json.isObject then value json else none

/-- Whether no name of some occurs twice in an object. -/
def namesOnce (names : List String) (json : Json) : Bool :=
  names.all fun name => (json.values name).length ≤ 1

/-- Reads a record: an object in which no field occurs twice, or an array of the first fields in
their order. -/
def record (names : List String) (value : Decoder α) : Decoder α
  | .object members =>
      if namesOnce names (.object members) then value (.object members) else none
  | .array elements =>
      if elements.length ≤ names.length then value (.object (names.zip elements)) else none
  | _ => none

end Decoder

end Json

end VolumeMigration
