/-!
# JSON values

A JSON value keeps the members of an object in the order in which they were written. Integers are
exact; any other number keeps the text it was written with, so that no digit is lost. A string with
half a surrogate pair in it is well formed but stands for no text: it is a value that no one can
read, and so is an object with such a name in it. `Json.member?` looks a member up; when a name
occurs twice, the last member counts.
-/

namespace VolumeMigration

/-- A JSON value. -/
inductive Json where
  | null
  | bool (value : Bool)
  | integer (value : Int)
  /-- A number that is not an integer of at most 64 bits, as it was written. -/
  | decimal (digits : String)
  | string (value : String)
  | array (elements : List Json)
  | object (members : List (String × Json))
  /-- A string that is no text, or an object with a name that is none. -/
  | unreadable
  deriving Inhabited

namespace Json

/-- A natural number as a value. -/
def natural (value : Nat) : Json := .integer (Int.ofNat value)

/-- A text as a value, null if there is none. -/
def ofText? : Option String → Json
  | none => .null
  | some text => .string text

/-- A list of texts as a value. -/
def ofTexts (texts : List String) : Json := .array (texts.map .string)

/-- An object without the members whose value is absent. -/
def objectOfPresent (members : List (String × Option Json)) : Json :=
  .object (members.filterMap fun member => member.2.map fun value => (member.1, value))

/-- The value of the last member with a name. -/
def member? (name : String) : Json → Option Json
  | .object members => members.reverse.lookup name
  | _ => none

/-- The values of all members with a name, in the order in which they are written. -/
def values (name : String) : Json → List Json
  | .object members => (members.filter (·.1 == name)).map Prod.snd
  | _ => []

/-- The members of an object; no other value has members. -/
def members : Json → List (String × Json)
  | .object members => members
  | _ => []

/-- The elements of an array; no other value has elements. -/
def elements : Json → List Json
  | .array elements => elements
  | _ => []

/-- The text that a value is. -/
def text? : Json → Option String
  | .string text => some text
  | _ => none

/-- The integer that a value is. -/
def integer? : Json → Option Int
  | .integer value => some value
  | _ => none

/-- The truth value that a value is. -/
def bool? : Json → Option Bool
  | .bool value => some value
  | _ => none

/-- Whether a value is null. -/
def isNull : Json → Bool
  | .null => true
  | _ => false

/-- Whether a value has members. -/
def isObject : Json → Bool
  | .object _ => true
  | _ => false

end Json

end VolumeMigration
