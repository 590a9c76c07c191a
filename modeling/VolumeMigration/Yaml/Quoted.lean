import VolumeMigration.Text.Hexadecimal
import VolumeMigration.Yaml.Folding

/-!
# Quoted YAML scalars

Between single quotes a quote is written twice, and all else stands for itself. Between double
quotes a backslash escapes a character, a code point in hexadecimal digits or the end of a line.
Line breaks are folded, and no line may start with the marker of a document.
-/

namespace VolumeMigration

namespace Yaml

/-- The rest of a scalar between single quotes whose first characters were read, the last one first,
and what follows it. -/
def singleFrom (read : List Char) (gap : Gap) : List Cell → Option (String × List Cell)
  | [] => none
  | cell :: rest =>
      if cell.isSpace then singleFrom read (gap.push cell.char) rest
      else if startsMarker (cell :: rest) then none
      else if cell.char == '\'' then
        match rest with
        | next :: more =>
            if next.char == '\'' then singleFrom ('\'' :: gap.close read) .none more
            else some (String.ofList (gap.close read).reverse, next :: more)
        | [] => some (String.ofList (gap.close read).reverse, [])
      else singleFrom (cell.char :: gap.close read) .none rest

/-- The character that an escape of one letter stands for. -/
def escaped? : Char → Option Char
  | '0' => some '\x00'
  | 'a' => some '\x07'
  | 'b' => some '\x08'
  | 't' | '\t' => some '\t'
  | 'n' => some '\n'
  | 'v' => some '\x0b'
  | 'f' => some '\x0c'
  | 'r' => some '\r'
  | 'e' => some '\x1b'
  | ' ' => some ' '
  | '"' => some '"'
  | '/' => some '/'
  | '\\' => some '\\'
  | 'N' => some '\u0085'
  | '_' => some '\u00a0'
  | 'L' => some '\u2028'
  | 'P' => some '\u2029'
  | _ => none

/-- The number of hexadecimal digits behind an escape letter. -/
def escapeDigits? : Char → Option Nat
  | 'x' => some 2
  | 'u' => some 4
  | 'U' => some 8
  | _ => none

/-- The character with a code, unless the code stands for none. -/
def charOf? (code : Nat) : Option Char :=
  if code.isValidChar then some (Char.ofNat code) else none

/-- What the reader of a scalar between double quotes is in the middle of. -/
inductive DoubleState where
  /-- The text, with a gap since its last word. -/
  | text (gap : Gap)
  /-- After a backslash. -/
  | escape
  /-- In the digits of a code point: how many are missing, and the value of those read. -/
  | digits (missing value : Nat)

/-- The rest of a scalar between double quotes whose first characters were read, the last one first,
and what follows it. -/
def doubleFrom (read : List Char) (state : DoubleState) : List Cell → Option (String × List Cell)
  | [] => none
  | cell :: rest =>
      match state with
      | .text gap =>
          if cell.isSpace then doubleFrom read (.text (gap.push cell.char)) rest
          else if startsMarker (cell :: rest) then none
          else if cell.char == '"' then some (String.ofList (gap.close read).reverse, rest)
          else if cell.char == '\\' then doubleFrom (gap.close read) .escape rest
          else doubleFrom (cell.char :: gap.close read) (.text .none) rest
      | .escape =>
          if isBreak cell.char then doubleFrom read (.text (.breaks none [])) rest
          else
            match escapeDigits? cell.char, escaped? cell.char with
            | some count, _ => doubleFrom read (.digits count 0) rest
            | none, some char => doubleFrom (char :: read) (.text .none) rest
            | none, none => none
      | .digits missing value =>
          match Text.hexDigit? cell.char with
          | none => none
          | some digit =>
              let code := value * 16 + digit
              if 1 < missing then doubleFrom read (.digits (missing - 1) code) rest
              else
                match charOf? code with
                | none => none
                | some char => doubleFrom (char :: read) (.text .none) rest

/-- The scalar behind an opening quote, and what follows it. -/
def quoted? (quote : Char) (cells : List Cell) : Option (String × List Cell) :=
  if quote == '\'' then singleFrom [] .none cells else doubleFrom [] (.text .none) cells

end Yaml

end VolumeMigration
