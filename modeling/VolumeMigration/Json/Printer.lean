import VolumeMigration.Json.Value
import VolumeMigration.Text.Quoted

/-!
# Writing JSON

`Json.compact` writes a value without blanks. Inside a string the quote, the backslash and the
control characters below U+0020 are escaped, those with a letter of their own by that letter.
`Json.sorted` puts the members of every object into the order of their names.
-/

namespace VolumeMigration

namespace Json

/-- The form of one character inside a JSON string. -/
def stringChar (char : Char) : String :=
  match char with
  | '"' => "\\\""
  | '\\' => "\\\\"
  | '\n' => "\\n"
  | '\r' => "\\r"
  | '\t' => "\\t"
  | '\x08' => "\\b"
  | '\x0c' => "\\f"
  | char =>
      if char.toNat < 0x10 then "\\u000" ++ Text.hexadecimal char.toNat
      else if char.toNat < 0x20 then "\\u00" ++ Text.hexadecimal char.toNat
      else String.singleton char

/-- A text in quotes, with escapes where they are needed. -/
def stringForm (text : String) : String :=
  "\"" ++ String.join (text.toList.map stringChar) ++ "\""

mutual

/-- A value without blanks. What cannot be read is written as null. -/
def compact : Json → String
  | .null => "null"
  | .bool true => "true"
  | .bool false => "false"
  | .integer value => toString value
  | .decimal digits => digits
  | .string text => stringForm text
  | .array elements => "[" ++ String.intercalate "," (compactElements elements) ++ "]"
  | .object members => "\x7b" ++ String.intercalate "," (compactMembers members) ++ "\x7d"
  | .unreadable => "null"

/-- The forms of the elements of an array. -/
def compactElements : List Json → List String
  | [] => []
  | element :: rest => compact element :: compactElements rest

/-- The forms of the members of an object. -/
def compactMembers : List (String × Json) → List String
  | [] => []
  | (name, value) :: rest => (stringForm name ++ ":" ++ compact value) :: compactMembers rest

end

/-- Puts a member into a list sorted by name, in place of a member of the same name. -/
def insertMember (name : String) (value : Json) : List (String × Json) → List (String × Json)
  | [] => [(name, value)]
  | (other, known) :: rest =>
      if name < other then (name, value) :: (other, known) :: rest
      else if name = other then (name, value) :: rest
      else (other, known) :: insertMember name value rest

mutual

/-- A value with the members of all its objects sorted by name. -/
def sorted : Json → Json
  | .array elements => .array (sortedElements elements)
  | .object members => .object (sortedMembers [] members)
  | value => value

/-- The elements of an array, sorted inside. -/
def sortedElements : List Json → List Json
  | [] => []
  | element :: rest => sorted element :: sortedElements rest

/-- The members of an object put one by one into a sorted list. -/
def sortedMembers (done : List (String × Json)) : List (String × Json) → List (String × Json)
  | [] => done
  | (name, value) :: rest => sortedMembers (insertMember name (sorted value) done) rest

end

end Json

end VolumeMigration
