import VolumeMigration.Yaml.Value

/-!
# Decoding YAML into typed values

A decoder refuses a value of the wrong type. Local tags are ignored. A record is a mapping whose
keys are strings, and null is the empty one; a field that is asked for may be given once.
`Decoder.optional` answers nothing for a field that is absent or null, and `Decoder.ifGiven` a
default for an absent one.
-/

namespace VolumeMigration

namespace Yaml

/-- A partial reading of YAML values as values of another type. -/
abbrev Decoder (α : Type) := Value → Option α

/-- The fields of a record in the order in which they were written. -/
abbrev Fields := List (String × Value)

namespace Value

/-- A value without its tags. -/
def untagged : Value → Value
  | .tagged _ value => value.untagged
  | value => value

/-- The text that a value is, whatever its tags. -/
def text? (value : Value) : Option String :=
  match value.untagged with
  | .string text => some text
  | _ => none

/-- The entries of a mapping; null has none. -/
def entries? (value : Value) : Option (List (Value × Value)) :=
  match value.untagged with
  | .mapping entries => some entries
  | .null => some []
  | _ => none

mutual

/-- Whether a value is one that JSON has as well: it has no tags, and the keys of its mappings are
strings. -/
def isPlainData : Value → Bool
  | .sequence elements => arePlainData elements
  | .mapping entries => haveTextKeys entries
  | .tagged _ _ => false
  | _ => true

/-- Whether all elements of a sequence are values that JSON has as well. -/
def arePlainData : List Value → Bool
  | [] => true
  | element :: rest => isPlainData element && arePlainData rest

/-- Whether all entries of a mapping have keys that are strings and values that JSON has as well. -/
def haveTextKeys : List (Value × Value) → Bool
  | [] => true
  | (key, value) :: rest => (text? key).isSome && isPlainData value && haveTextKeys rest

end

end Value

namespace Decoder

variable {α : Type}

/-- The text that a value is. -/
def text : Decoder String := Value.text?

/-- The truth value that a value is. -/
def flag : Decoder Bool := fun value =>
  match value.untagged with
  | .bool value => some value
  | _ => none

/-- Reads any value that JSON has as well, and forgets it. -/
def plainData : Decoder Unit := fun value => if value.isPlainData then some () else none

/-- Reads one of some words. A word may also be the tag of null. -/
def word (words : List String) : Decoder String := fun value =>
  match value with
  | .string text => if words.contains text then some text else none
  | .tagged name inner =>
      match inner.untagged with
      | .null => if words.contains (Value.bareName name) then some (Value.bareName name) else none
      | _ => none
  | _ => none

/-- Reads a sequence, element by element; null has no elements. -/
def list (element : Decoder α) : Decoder (List α) := fun value =>
  match value.untagged with
  | .sequence elements => elements.mapM element
  | .null => some []
  | _ => none

/-- The fields of a mapping, all of which have texts as names. -/
def fields : Decoder Fields := fun value => do
  (← value.entries?).mapM fun entry => do return (← Value.text? entry.1, entry.2)

/-- A value whose fields are a record. -/
def object (record : Fields → Option α) : Decoder α := fun value =>
  (fields value).bind record

/-- Reads a mapping from strings to values of one type. Of equal names the last one counts. -/
def dictionary (value : Decoder α) : Decoder (List (String × α)) := fun json => do
  let entries ← (← fields json).mapM fun field => do return (field.1, ← value field.2)
  return entries.foldl (fun known entry => known.filter (·.1 != entry.1) ++ [entry]) []

/-- The value of a field, if it is given; it may not be given twice. -/
def field? (name : String) (record : Fields) : Option (Option Value) :=
  match record.filter (·.1 = name) with
  | [] => some none
  | [field] => some (some field.2)
  | _ => none

/-- Reads a field that may be absent or null. -/
def optional (name : String) (value : Decoder α) (record : Fields) : Option (Option α) := do
  match ← field? name record with
  | none | some .null => return none
  | some given => return some (← value given)

/-- Reads a field, or takes a default where it is absent. -/
def ifGiven (name : String) (default : α) (value : Decoder α) (record : Fields) : Option α := do
  match ← field? name record with
  | none => return default
  | some given => value given

/-- The value of a field that has to be there. -/
def required (name : String) (value : Decoder α) (record : Fields) : Option α := do
  match ← field? name record with
  | none => none
  | some given => value given

end Decoder

end Yaml

end VolumeMigration
