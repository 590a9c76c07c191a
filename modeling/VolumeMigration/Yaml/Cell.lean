/-!
# The characters of a YAML text

A YAML text is read as a list of cells: its characters, each with its place. A line may end with a
line feed, a carriage return, both together or U+0085, which all count as a line feed, or with
U+2028 or U+2029, which are kept as they are. A text that holds a character without a meaning, such
as most control characters, has no cells.
-/

namespace VolumeMigration

namespace Yaml

/-- Whether a character separates words in a line. -/
def isBlank (char : Char) : Bool :=
  char == ' ' || char == '\t'

/-- Whether a character ends a line. -/
def isBreak (char : Char) : Bool :=
  char == '\n' || char == '\r' || char == '\u0085' || char == '\u2028' || char == '\u2029'

/-- The line break that stands for a character that ends a line. -/
def unifiedBreak (char : Char) : Char :=
  if char == '\u2028' || char == '\u2029' then char else '\n'

/-- Whether a character can stand in a document. -/
def isAllowed (char : Char) : Bool :=
  let code := char.toNat
  code == 0x09 || code == 0x0a || code == 0x0d || (0x20 ≤ code && code ≤ 0x7e) ||
    code == 0x85 || (0xa0 ≤ code && code ≤ 0xfffd) || 0x10000 ≤ code

/-- Whether a character can stand in the name of a handle. -/
def isNameChar (char : Char) : Bool :=
  char.isAlphanum || char == '_' || char == '-'

/-- The mark that may stand at the start of a line. It takes up the first column. -/
def byteOrderMark : Char := '\ufeff'

/-- A character and its place in a text. -/
structure Cell where
  char : Char
  /-- The number of characters before it. -/
  index : Nat
  line : Nat
  /-- The number of characters before it on its line. -/
  column : Nat
  deriving DecidableEq

namespace Cell

/-- Whether a cell holds a blank or a line break. -/
def isSpace (cell : Cell) : Bool :=
  isBlank cell.char || isBreak cell.char

end Cell

/-- The cells of some characters from a place on. -/
def cellsFrom (index line column : Nat) : List Char → List Cell
  | [] => []
  | '\r' :: '\n' :: rest => ⟨'\n', index, line, column⟩ :: cellsFrom (index + 2) (line + 1) 0 rest
  | char :: rest =>
      if isBreak char then
        ⟨unifiedBreak char, index, line, column⟩ :: cellsFrom (index + 1) (line + 1) 0 rest
      else ⟨char, index, line, column⟩ :: cellsFrom (index + 1) line (column + 1) rest

/-- The cells of a text without characters that are not allowed. -/
def cells? (text : String) : Option (List Cell) :=
  if text.toList.all isAllowed then some (cellsFrom 0 0 0 text.toList) else none

/-- Whether no word goes on at the start of some cells. -/
def endsWord (cells : List Cell) : Bool :=
  cells.head?.all Cell.isSpace

/-- Whether some cells start with a blank. -/
def startsBlank (cells : List Cell) : Bool :=
  cells.head?.any fun cell => isBlank cell.char

/-- Whether some cells start with a character. -/
def startsWith (char : Char) (cells : List Cell) : Bool :=
  cells.head?.any fun cell => cell.char == char

/-- The rest of some cells behind a character three times at the start of a line, if no word goes on
there. -/
def markerRest? (char : Char) (cells : List Cell) : Option (List Cell) :=
  match cells with
  | first :: second :: third :: rest =>
      if first.column = 0 && [first, second, third].all (·.char == char) && endsWord rest then
        some rest
      else none
  | _ => none

/-- Whether some cells start with a marker between documents. -/
def startsMarker (cells : List Cell) : Bool :=
  (markerRest? '-' cells).isSome || (markerRest? '.' cells).isSome

/-- Some cells from the end of their first line on. -/
def dropLine (cells : List Cell) : List Cell :=
  cells.dropWhile fun cell => !isBreak cell.char

/-- Some cells without the blanks at their start. -/
def dropBlanks (cells : List Cell) : List Cell :=
  cells.dropWhile fun cell => isBlank cell.char

/-- What follows the end of a line on which nothing but a comment is left. -/
def lineRest? (cells : List Cell) : Option (List Cell) :=
  let left := dropBlanks cells
  let left := if startsWith '#' left then dropLine left else left
  match left with
  | [] => some []
  | cell :: rest => if isBreak cell.char then some rest else none

end Yaml

end VolumeMigration
