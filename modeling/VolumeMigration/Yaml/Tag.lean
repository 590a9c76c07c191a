import VolumeMigration.Text.Hexadecimal
import VolumeMigration.Yaml.Cell

/-!
# YAML tags

A tag is a sequence of octets. It is written in full between angle brackets, or as a handle and a
suffix; a directive says what a handle stands for. Octets that are no ordinary characters are
written as a percent sign and two hexadecimal digits each, and follow each other as UTF-8 has them.
-/

namespace VolumeMigration

namespace Yaml

/-- A text as bytes. -/
abbrev Octets := List UInt8

/-- The bytes of characters that have one byte each. -/
def octets (chars : List Char) : Octets :=
  chars.map fun char => UInt8.ofNat char.toNat

/-- Whether a character may stand in a tag. Commas and brackets may do so where nothing encloses
it. -/
def isTagChar (verbatim : Bool) (char : Char) : Bool :=
  isNameChar char || ";/?:@&=+$.!~*'()".toList.contains char ||
    (verbatim && ",[]".toList.contains char)

/-- How many octets follow the first one of a character. -/
def octetsBehind? (first : Nat) : Option Nat :=
  if first < 0x80 then some 0
  else if 0xc0 ≤ first ∧ first < 0xe0 then some 1
  else if 0xe0 ≤ first ∧ first < 0xf0 then some 2
  else if 0xf0 ≤ first ∧ first < 0xf8 then some 3
  else none

/-- How many octets of a character are missing behind an octet, if it may stand there. -/
def missingAfter? (missing octet : Nat) : Option Nat :=
  if missing = 0 then octetsBehind? octet
  else if 0x80 ≤ octet ∧ octet < 0xc0 then some (missing - 1)
  else none

/-- What the reader of a tag is in the middle of. Octets of a character may be missing. -/
inductive TagState where
  | between (missing : Nat)
  /-- After a percent sign. -/
  | percent (missing : Nat)
  /-- After the first digit behind it. -/
  | digit (missing first : Nat)

/-- The rest of a tag whose first octets were read, the last one first, and what follows it. -/
def tagFrom (verbatim : Bool) (read : Octets) (state : TagState) :
    List Cell → Option (Octets × List Cell)
  | [] =>
      match state with
      | .between 0 => some (read.reverse, [])
      | _ => none
  | cell :: rest =>
      match state with
      | .between missing =>
          if cell.char == '%' then tagFrom verbatim read (.percent missing) rest
          else if missing ≠ 0 then none
          else if isTagChar verbatim cell.char then
            tagFrom verbatim (UInt8.ofNat cell.char.toNat :: read) (.between 0) rest
          else some (read.reverse, cell :: rest)
      | .percent missing =>
          match Text.hexDigit? cell.char with
          | some first => tagFrom verbatim read (.digit missing first) rest
          | none => none
      | .digit missing first =>
          match Text.hexDigit? cell.char with
          | none => none
          | some second =>
              let octet := first * 16 + second
              match missingAfter? missing octet with
              | some left => tagFrom verbatim (UInt8.ofNat octet :: read) (.between left) rest
              | none => none

/-- Octets up to the first that is zero. -/
def untilZero (read : Octets) : Octets :=
  read.takeWhile (· != 0)

/-- A tag that was read: its handle, its suffix and what follows. -/
structure TagText where
  handle : List Char
  suffix : Octets
  rest : List Cell

/-- The handle at the start of some cells, and what follows it: an exclamation mark, perhaps with a
name and a second one behind it. -/
def handle? (cells : List Cell) : Option (List Char × List Cell) :=
  match cells with
  | [] => none
  | first :: rest =>
      if first.char != '!' then none
      else
        let name := (rest.takeWhile fun cell => isNameChar cell.char).map Cell.char
        let behind := rest.dropWhile fun cell => isNameChar cell.char
        if startsWith '!' behind then some ('!' :: name ++ ['!'], behind.drop 1)
        else some ('!' :: name, behind)

/-- Whether a handle ends with an exclamation mark of its own. -/
def isClosedHandle (handle : List Char) : Bool :=
  1 < handle.length && handle.getLast? == some '!'

/-- The tag between angle brackets behind an exclamation mark. -/
def verbatimTag? (cells : List Cell) : Option TagText := do
  let (suffix, rest) ← tagFrom true [] (.between 0) cells
  if !suffix.isEmpty && startsWith '>' rest then
    some { handle := [], suffix := untilZero suffix, rest := rest.drop 1 }
  else none

/-- The tag of a handle and a suffix. Without a closed handle it is local; a lone exclamation mark
has no handle. -/
def shorthandTag? (cells : List Cell) : Option TagText := do
  let (handle, behind) ← handle? cells
  let (suffix, rest) ← tagFrom false [] (.between 0) behind
  let whole := untilZero (octets handle.tail ++ suffix)
  if isClosedHandle handle then
    if suffix.isEmpty then none else some { handle, suffix := untilZero suffix, rest }
  else if whole.isEmpty then some { handle := [], suffix := octets ['!'], rest }
  else some { handle := ['!'], suffix := whole, rest }

/-- The tag at the start of some cells. A word ends behind it; inside brackets a comma may follow
as well. -/
def tag? (inFlow : Bool) (cells : List Cell) : Option TagText := do
  let found ←
    if startsWith '<' (cells.drop 1) then verbatimTag? (cells.drop 2) else shorthandTag? cells
  if endsWord found.rest || (inFlow && startsWith ',' found.rest) then some found else none

/-- What a directive says a handle stands for, and what follows it. -/
def handleMeaning? (cells : List Cell) : Option TagText := do
  let (handle, behind) ← handle? (dropBlanks cells)
  if handle != ['!'] && !isClosedHandle handle then none
  else if !startsBlank behind then none
  else
    let (meaning, rest) ← tagFrom true [] (.between 0) (dropBlanks behind)
    if !meaning.isEmpty && endsWord rest then some { handle, suffix := untilZero meaning, rest }
    else none

/-- The tags with a handle of two exclamation marks that say what a scalar is. -/
def coreTag (name : String) : Octets :=
  octets ("tag:yaml.org,2002:" ++ name).toList

/-- The octets that a handle stands for where no directive says so. -/
def standardMeaning? (handle : String) : Option Octets :=
  if handle = "!" then some (octets ['!'])
  else if handle = "!!" then some (coreTag "")
  else none

end Yaml

end VolumeMigration
