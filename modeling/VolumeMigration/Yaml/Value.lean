import VolumeMigration.Numeral.Binary64
import VolumeMigration.Text.Hexadecimal

/-!
# YAML values

What a node stands for. `Value.same` decides whether two values are equal: mappings are equal
whatever the order of their entries, and a number with a point never equals an integer.
`Value.ofPlain?` says what a plain scalar stands for: null, a Boolean, a number if it looks like
one, and otherwise its text.
-/

namespace VolumeMigration

namespace Yaml

/-- A number with a point, or one of the values that such numbers have beside them. -/
inductive Floating where
  | nan
  | infinite (negative : Bool)
  | finite (negative : Bool) (magnitude : Binary64)

/-- Whether two numbers with a point are equal. Both zeros are, and what is not a number equals
itself. -/
def Floating.same : Floating → Floating → Bool
  | .nan, .nan => true
  | .infinite negative, .infinite other => negative == other
  | .finite negative magnitude, .finite other size =>
      magnitude = size && (negative == other || magnitude.mantissa = 0)
  | _, _ => false

/-- What a node stands for. -/
inductive Value where
  | null
  | bool (value : Bool)
  | integer (value : Int)
  | floating (value : Floating)
  | string (value : String)
  | sequence (elements : List Value)
  | mapping (entries : List (Value × Value))
  /-- A value with a local tag, without the exclamation mark of the tag. -/
  | tagged (name : String) (value : Value)
  deriving Inhabited

namespace Value

/-- The name of a tag without one more exclamation mark. -/
def bareName (name : String) : String :=
  match name.toList with
  | '!' :: char :: rest => String.ofList (char :: rest)
  | _ => name

mutual

/-- Whether two values are equal as keys of a mapping. -/
def same : Value → Value → Bool
  | .null, .null => true
  | .bool value, .bool other => value == other
  | .integer value, .integer other => value == other
  | .floating value, .floating other => value.same other
  | .string value, .string other => value == other
  | .sequence elements, .sequence others => sameElements elements others
  | .mapping entries, .mapping others =>
      entries.length == others.length && haveSame entries others
  | .tagged name value, .tagged other inner => bareName name == bareName other && same value inner
  | _, _ => false

/-- Whether two sequences have equal elements in the same order. -/
def sameElements : List Value → List Value → Bool
  | [], [] => true
  | element :: rest, other :: others => same element other && sameElements rest others
  | _, _ => false

/-- Whether for all of some entries there is an equal one among others. -/
def haveSame : List (Value × Value) → List (Value × Value) → Bool
  | [], _ => true
  | (key, value) :: rest, others =>
      others.any (fun other => same key other.1 && same value other.2) && haveSame rest others

end

/-- Whether no key of a mapping occurs twice. -/
def distinctKeys : List (Value × Value) → Bool
  | [] => true
  | (key, _) :: rest => !rest.any (fun entry => same key entry.1) && distinctKeys rest

/-! ## Plain scalars -/

/-- The number that digits to a base stand for; there is at least one. -/
def ofDigits? (base : Nat) (digits : List Char) : Option Nat :=
  let digit? (char : Char) : Option Nat := (Text.hexDigit? char).filter (· < base)
  if digits.isEmpty then none
  else digits.foldlM (fun value char => (digit? char).map (value * base + ·)) 0

/-- Whether characters are digits after a leading zero, perhaps with a sign. They are no number. -/
def hasLeadingZero (chars : List Char) : Bool :=
  let unsigned :=
    match chars with
    | '-' :: rest | '+' :: rest => rest
    | _ => chars
  match unsigned with
  | '0' :: digit :: rest => (digit :: rest).all Char.isDigit
  | _ => false

/-- The number that characters without a sign stand for: after `0x`, `0o` and `0b` to the bases 16,
8 and 2, and otherwise to the base 10. -/
def natural? (chars : List Char) : Option Nat :=
  match chars with
  | '0' :: 'x' :: digits => ofDigits? 16 digits
  | '0' :: 'o' :: digits => ofDigits? 8 digits
  | '0' :: 'b' :: digits => ofDigits? 2 digits
  | digits => if hasLeadingZero digits then none else ofDigits? 10 digits

/-- The integer that some characters write in decimal. -/
def integer? (chars : List Char) : Option Int :=
  match chars with
  | '-' :: rest => (natural? rest).map fun value => -(value : Int)
  | '+' :: rest => (natural? rest).map Int.ofNat
  | rest => (natural? rest).map Int.ofNat

/-- Whether an integer has a value of its own: it takes 64 bits, with a sign if it is negative. -/
def isStorable (value : Int) : Bool :=
  -(Int.ofNat (UInt64.size / 2)) ≤ value && value < Int.ofNat UInt64.size

/-- Whether an integer that takes more than 64 bits takes at most 128. No value can hold it. -/
def isTooLarge (value : Int) : Bool :=
  let size := Int.ofNat UInt64.size
  !isStorable value && -(size * (size / 2)) ≤ value && value < size * size

/-- The number with a point, or beside them, that a text stands for. -/
def floating? (text : String) : Option Floating :=
  if text ∈ [".inf", ".Inf", ".INF", "+.inf", "+.Inf", "+.INF"] then some (.infinite false)
  else if text ∈ ["-.inf", "-.Inf", "-.INF"] then some (.infinite true)
  else if text ∈ [".nan", ".NaN", ".NAN"] then some .nan
  else do
    let numeral ← Numeral.parse? text.toList
    let magnitude ← Binary64.nearest? numeral
    return .finite numeral.negative magnitude

/-- The Boolean that a text stands for. -/
def bool? (text : String) : Option Bool :=
  if text ∈ ["true", "True", "TRUE"] then some true
  else if text ∈ ["false", "False", "FALSE"] then some false
  else none

/-- Whether a word without quotes means null. -/
def isNullWord (text : String) : Bool :=
  text ∈ ["null", "Null", "NULL", "~"]

/-- What a text stands for that is not an integer: a number with a point, or itself. -/
def ofWord (text : String) : Value :=
  if hasLeadingZero text.toList then .string text
  else ((floating? text).map .floating).getD (.string text)

/-- What a plain scalar stands for, unless it is an integer that no value can hold. -/
def ofPlain? (text : String) : Option Value :=
  if text = "" || isNullWord text then some .null
  else
    match bool? text, integer? text.toList with
    | some value, _ => some (.bool value)
    | none, some value =>
        if isStorable value then some (.integer value)
        else if isTooLarge value then none
        else some (ofWord text)
    | none, none => some (ofWord text)

end Value

end Yaml

end VolumeMigration
