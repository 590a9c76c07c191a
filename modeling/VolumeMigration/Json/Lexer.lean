import VolumeMigration.Text.Hexadecimal

/-!
# JSON tokens

`Json.tokens` cuts a text into tokens. The lexer is a machine that reads one character at a time:
`LexerState.step` says how a character changes the state and which tokens it completes, and the
text is a fold of it. A string that is not closed, a bad escape, a control character inside a
string, a malformed number and a stray character have no tokens. A string with half a surrogate
pair has a token, which holds no text.
-/

namespace VolumeMigration

namespace Json

/-- A token of a JSON text. -/
inductive Token where
  | openArray
  | closeArray
  | openObject
  | closeObject
  | comma
  | colon
  | null
  | bool (value : Bool)
  /-- A number, as it is written. -/
  | number (digits : List Char)
  /-- A string, and the text that it stands for, if there is one. -/
  | string (value : Option String)
  deriving DecidableEq

/-- A part of a string: a character, or a code unit that is written in digits. -/
inductive Piece where
  | char (value : Char)
  | unit (value : Nat)

namespace Piece

/-- Whether a code unit is the first half of a pair. -/
def isHigh (unit : Nat) : Bool := 0xd800 ≤ unit && unit ≤ 0xdbff

/-- Whether a code unit is the second half of a pair. -/
def isLow (unit : Nat) : Bool := 0xdc00 ≤ unit && unit ≤ 0xdfff

/-- The characters that some pieces stand for. A first half is followed by a second one. -/
def chars? : List Piece → Option (List Char)
  | [] => some []
  | .char value :: rest => (chars? rest).map (value :: ·)
  | .unit high :: .unit low :: rest =>
      if isHigh high && isLow low then
        let code := 0x10000 + (high - 0xd800) * 0x400 + (low - 0xdc00)
        (chars? rest).map (Char.ofNat code :: ·)
      else if isHigh high || isLow high then none
      else (chars? (.unit low :: rest)).map (Char.ofNat high :: ·)
  | .unit value :: rest =>
      if isHigh value || isLow value then none else (chars? rest).map (Char.ofNat value :: ·)

end Piece

/-- What the lexer is in the middle of. What belongs to an unfinished token is kept with the last
part first. -/
inductive LexerState where
  | between
  | word (letters : List Char)
  | number (digits : List Char)
  | string (pieces : List Piece)
  /-- After a backslash in a string. -/
  | escape (pieces : List Piece)
  /-- In the hexadecimal digits of a code unit: how many were read, and their value. -/
  | code (pieces : List Piece) (count : Nat) (value : Nat)

namespace LexerState

/-- The token that a word without quotes is. Its letters come last first. -/
def ofWord (letters : List Char) : Option Token :=
  match String.ofList letters.reverse with
  | "null" => some .null
  | "true" => some (.bool true)
  | "false" => some (.bool false)
  | _ => none

/-- Whether a character can stand in a number. -/
def isNumberChar (char : Char) : Bool :=
  char.isDigit || char == '-' || char == '+' || char == '.' || char == 'e' || char == 'E'

/-- Whether some characters are the part of a number behind its letter `e`. -/
def isExponent (chars : List Char) : Bool :=
  match chars with
  | '+' :: digits => !digits.isEmpty && digits.all Char.isDigit
  | '-' :: digits => !digits.isEmpty && digits.all Char.isDigit
  | digits => !digits.isEmpty && digits.all Char.isDigit

/-- What may follow the whole part of a number. -/
def isTail (chars : List Char) : Bool :=
  match chars with
  | [] => true
  | '.' :: rest =>
      let fractionDigits := rest.takeWhile Char.isDigit
      !fractionDigits.isEmpty &&
        match rest.dropWhile Char.isDigit with
        | [] => true
        | letter :: exponent => (letter == 'e' || letter == 'E') && isExponent exponent
  | letter :: exponent => (letter == 'e' || letter == 'E') && isExponent exponent

/-- The grammar of an unsigned number: no leading zero, then fraction and exponent. -/
def isUnsigned (chars : List Char) : Bool :=
  match chars with
  | '0' :: rest => isTail rest
  | first :: rest => first.isDigit && isTail (rest.dropWhile Char.isDigit)
  | [] => false

/-- Whether some characters are a number. -/
def isNumber (chars : List Char) : Bool :=
  match chars with
  | '-' :: rest => isUnsigned rest
  | chars => isUnsigned chars

/-- The token that a number is. Its digits come last first. -/
def ofNumber (digits : List Char) : Option Token :=
  if isNumber digits.reverse then some (.number digits.reverse) else none

/-- The state after a character between tokens, and the token that the character is. -/
def start (char : Char) : Option (LexerState × List Token) :=
  match char with
  | ' ' | '\t' | '\n' | '\r' => some (.between, [])
  | '[' => some (.between, [.openArray])
  | ']' => some (.between, [.closeArray])
  | '\x7b' => some (.between, [.openObject])
  | '\x7d' => some (.between, [.closeObject])
  | ',' => some (.between, [.comma])
  | ':' => some (.between, [.colon])
  | '"' => some (.string [], [])
  | char =>
      if char.isDigit || char == '-' then some (.number [char], [])
      else if char.isLower then some (.word [char], [])
      else none

/-- The character that an escape letter stands for. -/
def escaped? : Char → Option Char
  | '"' => some '"'
  | '\\' => some '\\'
  | '/' => some '/'
  | 'b' => some '\x08'
  | 'f' => some '\x0c'
  | 'n' => some '\n'
  | 'r' => some '\r'
  | 't' => some '\t'
  | _ => none

/-- The state after a character, with the tokens that it completes. -/
def step (state : LexerState) (char : Char) : Option (LexerState × List Token) :=
  match state with
  | .between => start char
  | .word letters =>
      if char.isLower then some (.word (char :: letters), [])
      else do
        let token ← ofWord letters
        let (next, tokens) ← start char
        return (next, token :: tokens)
  | .number digits =>
      if isNumberChar char then some (.number (char :: digits), [])
      else do
        let token ← ofNumber digits
        let (next, tokens) ← start char
        return (next, token :: tokens)
  | .string pieces =>
      if char == '"' then
        some (.between, [.string ((Piece.chars? pieces.reverse).map String.ofList)])
      else if char == '\\' then some (.escape pieces, [])
      else if char.toNat < 0x20 then none
      else some (.string (.char char :: pieces), [])
  | .escape pieces =>
      if char == 'u' then some (.code pieces 0 0, [])
      else (escaped? char).map fun meant => (.string (.char meant :: pieces), [])
  | .code pieces count value => do
      let digit ← Text.hexDigit? char
      let unit := value * 16 + digit
      if count < 3 then return (.code pieces (count + 1) unit, [])
      else return (.string (.unit unit :: pieces), [])

/-- The tokens that the end of the text completes. -/
def finish : LexerState → Option (List Token)
  | .between => some []
  | .word letters => (ofWord letters).map ([·])
  | .number digits => (ofNumber digits).map ([·])
  | _ => none

end LexerState

/-- The tokens of the characters that follow a state, after the tokens already read, which are
kept with the last one first. -/
def tokensFrom (state : LexerState) (read : List Token) : List Char → Option (List Token)
  | [] => state.finish.map fun last => read.reverse ++ last
  | char :: rest =>
      match state.step char with
      | none => none
      | some (next, tokens) => tokensFrom next (tokens.reverse ++ read) rest

/-- The tokens of a text, if all of it can be cut into tokens. -/
def tokens (text : String) : Option (List Token) :=
  tokensFrom .between [] text.toList

end Json

end VolumeMigration
