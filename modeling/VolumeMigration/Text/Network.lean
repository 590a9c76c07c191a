import VolumeMigration.Numeral.Basic
import VolumeMigration.Text.Hexadecimal
import VolumeMigration.Text.Split

/-!
# Names and addresses of hosts

`Network.isHost` accepts the name of a host and an IP address. A name consists of labels of letters,
digits, underscores and hyphens between dots; no hyphen stands at an end of a label, and the last
label is not a number. It may end with a dot.
-/

namespace VolumeMigration

namespace Network

/-- Whether a character can stand in one label of a name. -/
def isLabelChar (char : Char) : Bool :=
  char.isAlphanum || char == '_' || char == '-'

/-- Whether characters are a label of a name. -/
def isLabel (chars : List Char) : Bool :=
  !chars.isEmpty && chars.length ≤ 63 && chars.all isLabelChar && chars.head? != some '-' &&
    chars.getLast? != some '-'

/-- Whether a text is the name of a host. -/
def isName (text : String) : Bool :=
  let labels := Text.splitChars '.' text.toList
  let named := if labels.getLast? = some [] then labels.dropLast else labels
  text.utf8ByteSize ≤ 253 && !named.isEmpty && named.all isLabel &&
    !named.getLast?.any (·.all Char.isDigit)

/-- Whether characters are a number below 256 without a leading zero. -/
def isOctet (chars : List Char) : Bool :=
  !chars.isEmpty && chars.all Char.isDigit && chars.length ≤ 3 && Numeral.ofDigits chars < 256 &&
    (chars.length = 1 || chars.head? != some '0')

/-- Whether characters are an address of four octets. -/
def isFourOctets (chars : List Char) : Bool :=
  let pieces := Text.splitChars '.' chars
  pieces.length = 4 && pieces.all isOctet

/-- How many of eight groups some characters between colons take: each has up to four hexadecimal
digits, and four octets at the end take two. -/
def groups? (octetsAllowed : Bool) (chars : List Char) : Option Nat :=
  if chars.isEmpty then some 0
  else
    let pieces := Text.splitChars ':' chars
    let isGroup (piece : List Char) : Bool :=
      !piece.isEmpty && piece.length ≤ 4 && piece.all fun char => (Text.hexDigit? char).isSome
    if pieces.all isGroup then some pieces.length
    else if octetsAllowed && pieces.dropLast.all isGroup &&
        pieces.getLast?.any isFourOctets then
      some (pieces.length + 1)
    else none

/-- The parts of an address before and behind two colons in a row. -/
def cutAtColons : List Char → Option (List Char × List Char)
  | ':' :: ':' :: rest => some ([], rest)
  | [] => none
  | char :: rest => (cutAtColons rest).map fun found => (char :: found.1, found.2)

/-- Whether characters are an address of eight groups. Two colons stand for groups of zeros. -/
def isEightGroups (chars : List Char) : Bool :=
  match cutAtColons chars with
  | none => groups? true chars = some 8
  | some (front, back) =>
      match groups? false front, groups? true back with
      | some before, some behind => before + behind < 8
      | _, _ => false

/-- Whether a text is the name or the address of a host. -/
def isHost (text : String) : Bool :=
  isName text || isFourOctets text.toList || isEightGroups text.toList

end Network

end VolumeMigration
