import VolumeMigration.Json.Lexer
import VolumeMigration.Json.Value
import VolumeMigration.Numeral.Binary64

/-!
# Reading JSON

`Json.read?` reads a text that holds exactly one JSON value. The reader keeps a stack of the arrays
and objects that are open and takes one token at a time (`ReaderState.step`). An integer beyond 64
bits is kept as it was written. The reader accepts all that is well formed; `Json.isWhole` says
whether a value can be taken over in every part.
-/

namespace VolumeMigration

namespace Json

/-- The members of an object, each with its name if that is a text. -/
abbrev Members := List (Option String × Json)

/-- An open array or object. Its parts are kept with the last one first. -/
inductive Frame where
  | array (elements : List Json)
  /-- An object whose member `name` is being read. -/
  | object (members : Members) (name : Option String)

/-- What the reader expects next. -/
inductive ReaderState where
  /-- A value. -/
  | awaitValue (stack : List Frame)
  /-- The first element of an array, or its end. -/
  | firstElement (stack : List Frame)
  /-- The first name of an object, or its end. -/
  | firstName (stack : List Frame)
  /-- Another name of an object. -/
  | awaitName (members : Members) (stack : List Frame)
  /-- The colon after a name. -/
  | awaitColon (members : Members) (name : Option String) (stack : List Frame)
  /-- A comma or the end of the innermost array or object, or the end of the text. -/
  | after (value : Json) (stack : List Frame)

namespace ReaderState

/-- The object with some members. It can be read if all its names can. -/
def ofMembers (members : Members) : Json :=
  match members.mapM fun member => member.1.map fun name => (name, member.2) with
  | some members => .object members
  | none => .unreadable

/-- A number as a value: an integer of at most 64 bits, or its digits. -/
def ofNumber (chars : List Char) : Json :=
  match chars with
  | '-' :: digits =>
      let value := Numeral.ofDigits digits
      if digits.all Char.isDigit && 0 < value && value ≤ UInt64.size / 2 then
        .integer (-(value : Int))
      else .decimal (String.ofList chars)
  | digits =>
      let value := Numeral.ofDigits digits
      if digits.all Char.isDigit && value < UInt64.size then .integer value
      else .decimal (String.ofList chars)

/-- The state after the first token of a value. -/
def begin (stack : List Frame) (token : Token) : Option ReaderState :=
  match token with
  | .null => some (.after .null stack)
  | .bool value => some (.after (.bool value) stack)
  | .number digits => some (.after (ofNumber digits) stack)
  | .string text => some (.after ((text.map Json.string).getD .unreadable) stack)
  | .openArray => some (.firstElement stack)
  | .openObject => some (.firstName stack)
  | _ => none

/-- One more token of a value. -/
def step (state : ReaderState) (token : Token) : Option ReaderState :=
  match state with
  | .awaitValue stack => begin stack token
  | .firstElement stack =>
      if token = .closeArray then some (.after (.array []) stack)
      else begin (.array [] :: stack) token
  | .firstName stack =>
      match token with
      | .closeObject => some (.after (.object []) stack)
      | .string name => some (.awaitColon [] name stack)
      | _ => none
  | .awaitName members stack =>
      match token with
      | .string name => some (.awaitColon members name stack)
      | _ => none
  | .awaitColon members name stack =>
      if token = .colon then some (.awaitValue (.object members name :: stack)) else none
  | .after value (.array elements :: stack) =>
      match token with
      | .comma => some (.awaitValue (.array (value :: elements) :: stack))
      | .closeArray => some (.after (.array (value :: elements).reverse) stack)
      | _ => none
  | .after value (.object members name :: stack) =>
      match token with
      | .comma => some (.awaitName ((name, value) :: members) stack)
      | .closeObject => some (.after (ofMembers ((name, value) :: members).reverse) stack)
      | _ => none
  | .after _ [] => none

end ReaderState

/-- The value that a sequence of tokens stands for. -/
def ofTokens? (tokens : List Token) : Option Json :=
  match tokens.foldlM ReaderState.step (.awaitValue []) with
  | some (.after value []) => some value
  | _ => none

/-- The value that a text writes. -/
def read? (text : String) : Option Json :=
  (tokens text).bind ofTokens?

/-! ## Values that can be taken over -/

/-- How deep arrays and objects may be nested where all of a value is taken over. -/
def depthLimit : Nat := 127

mutual

/-- Whether a value can be taken over in every part: it holds nothing that cannot be read and no
number beyond all binary numbers of 64 bits, and arrays and objects are not nested too deep. -/
def isWhole (depth : Nat) : Json → Bool
  | .array elements => 0 < depth && areWhole (depth - 1) elements
  | .object members => 0 < depth && haveWhole (depth - 1) members
  | .decimal digits =>
      (Numeral.parse? digits.toList).any fun numeral => (Binary64.nearest? numeral).isSome
  | .unreadable => false
  | _ => true

/-- Whether all elements of an array can be taken over. -/
def areWhole (depth : Nat) : List Json → Bool
  | [] => true
  | element :: rest => isWhole depth element && areWhole depth rest

/-- Whether all members of an object can be taken over. -/
def haveWhole (depth : Nat) : List (String × Json) → Bool
  | [] => true
  | (_, value) :: rest => isWhole depth value && haveWhole depth rest

end

end Json

end VolumeMigration
