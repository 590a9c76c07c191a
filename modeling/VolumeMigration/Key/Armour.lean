import VolumeMigration.Key.Base64
import VolumeMigration.Text.Split

/-!
# Armoured data

Keys and certificates are kept in text files. Each stands between a line that begins a section and
one that ends it, both with the same label, in Base64 with blanks and line breaks anywhere. Headers
with a colon may precede the data, with an empty line behind them. What is outside of sections does
not count. `Armour.sections?` reads the sections.
-/

namespace VolumeMigration

namespace Armour

/-- Armoured data. -/
structure Section where
  label : List Char
  data : List UInt8

/-- What stands before and behind the first occurrence of a mark. -/
def cut? (mark : List Char) : List Char → Option (List Char × List Char)
  | [] => none
  | char :: rest =>
      if mark.isPrefixOf (char :: rest) then some ([], (char :: rest).drop mark.length)
      else (cut? mark rest).map fun found => (char :: found.1, found.2)

/-- Whether a character does not count in the data of a section. -/
def isSpace (char : Char) : Bool :=
  char == ' ' || (0x09 ≤ char.toNat && char.toNat ≤ 0x0d)

/-- The headers and the data of a section. -/
def headersAndData (body : List Char) : List Char × List Char :=
  ((cut? ['\n', '\n'] body).or (cut? ['\r', '\n', '\r', '\n'] body)).getD ([], body)

/-- Whether each line of the headers has a colon. -/
def areHeaders (headers : List Char) : Bool :=
  let lines := Text.splitChars '\n' headers
  let ended := if lines.getLast? = some [] then lines.dropLast else lines
  ended.all fun line => line.contains ':'

/-- The section with a label, a body and a label at its end. -/
def section? (label body ending : List Char) : Option Section :=
  let (headers, data) := headersAndData body
  if label.isEmpty || label != ending || !areHeaders headers then none
  else do
    let data ← Base64.decodeChars? (data.filter fun char => !isSpace char)
    return { label, data }

/-- The dashes around a label. -/
def dashes : List Char := "-----".toList

/-- The label, the body and the label at the end of the first section, and what follows it. -/
def first? (chars : List Char) : Option ((List Char × List Char × List Char) × List Char) := do
  let (_, behind) ← cut? "-----BEGIN ".toList chars
  let (label, behind) ← cut? dashes behind
  let (body, behind) ← cut? "-----END ".toList (behind.dropWhile isSpace)
  let (ending, rest) ← cut? dashes behind
  return ((label, body, ending), rest.dropWhile isSpace)

/-- The sections in some characters; each is longer than the fuel that it takes. -/
def sectionsFrom : Nat → List Char → Option (List Section)
  | 0, _ => some []
  | fuel + 1, chars =>
      match first? chars with
      | none => some []
      | some ((label, body, ending), rest) => do
          let found ← section? label body ending
          let others ← sectionsFrom fuel rest
          return found :: others

/-- The sections of a file. -/
def sections? (bytes : List UInt8) : Option (List Section) :=
  sectionsFrom bytes.length (bytes.map fun byte => Char.ofNat byte.toNat)

/-- The data of the sections with a label. -/
def labelled (label : String) (sections : List Section) : List (List UInt8) :=
  (sections.filter (·.label = label.toList)).map Section.data

end Armour

end VolumeMigration
