import VolumeMigration.Yaml.Block
import VolumeMigration.Yaml.Plain
import VolumeMigration.Yaml.Quoted
import VolumeMigration.Yaml.Tag
import VolumeMigration.Yaml.Token

/-!
# Cutting a YAML text into tokens

`Token.ofText?` gives the tokens of a text. Outside of brackets, indentation opens and closes
collections. Whether a token starts a key is known only when the colon behind it is reached, so the
lexer remembers the last token that may do so (`KeyCandidate`) and announces the key in front of it
then. A key that is not announced by a question mark stays on one line and within 1024 characters.
-/

namespace VolumeMigration

namespace Yaml

/-- A token that may turn out to start a key. -/
structure KeyCandidate where
  /-- Whether nothing but a key can start there. -/
  required : Bool
  /-- The number of tokens before it. -/
  position : Nat
  /-- Its first character. -/
  place : Cell

/-- What is known at a place of a text. -/
structure Lexer where
  /-- The tokens so far, the last one first, and their number. -/
  tokens : List Token
  count : Nat
  /-- The columns of the open collections that indentation delimits, the innermost one first. -/
  columns : List Nat
  /-- Whether a key may start at the place. -/
  keyAllowed : Bool
  /-- The token that may start a key, and those outside of each open bracket. -/
  candidate : Option KeyCandidate
  outer : List (Option KeyCandidate)

namespace Lexer

/-- The lexer at the start of a text. -/
def start : Lexer :=
  { tokens := [], count := 0, columns := [], keyAllowed := true, candidate := none, outer := [] }

/-- Whether a bracket is open. -/
def inFlow (lexer : Lexer) : Bool := !lexer.outer.isEmpty

/-- The column from which on a line belongs to the innermost open collection. -/
def margin (lexer : Lexer) : Nat := lexer.columns.head?.elim 0 (· + 1)

/-- Adds a token. -/
def push (lexer : Lexer) (token : Token) : Lexer :=
  { lexer with tokens := token :: lexer.tokens, count := lexer.count + 1 }

/-- Adds a token in front of those from a position on. -/
def insert (lexer : Lexer) (position : Nat) (token : Token) : Lexer :=
  let behind := lexer.count - position
  { lexer with
    tokens := lexer.tokens.take behind ++ token :: lexer.tokens.drop behind
    count := lexer.count + 1 }

/-- Gives up the token that may start a key, unless it has to. -/
def dropCandidate (lexer : Lexer) : Option Lexer :=
  if lexer.candidate.any KeyCandidate.required then none
  else some { lexer with candidate := none }

/-- Remembers that the token at a place may start a key, if keys are allowed there. -/
def noteCandidate (lexer : Lexer) (place : Cell) : Option Lexer :=
  if lexer.keyAllowed then do
    let required := !lexer.inFlow && lexer.columns.head? == some place.column
    let lexer ← lexer.dropCandidate
    return { lexer with candidate := some { required, position := lexer.count, place } }
  else some lexer

/-- Whether a place is too far behind a token for a key. -/
def KeyCandidate.isTooFar (candidate : KeyCandidate) (place : Cell) : Bool :=
  candidate.place.line < place.line || candidate.place.index + 1024 < place.index

/-- Gives up all tokens that are too far before a place to start a key, unless one has to. -/
def expire (lexer : Lexer) (place : Cell) : Option Lexer :=
  let isLost (candidate : KeyCandidate) : Bool := KeyCandidate.isTooFar candidate place
  let all := lexer.candidate :: lexer.outer
  if all.any fun candidate => candidate.any fun key => key.required && isLost key then none
  else
    let left (candidate : Option KeyCandidate) : Option KeyCandidate :=
      candidate.filter fun key => !isLost key
    some { lexer with candidate := left lexer.candidate, outer := lexer.outer.map left }

/-- Opens a collection at a column if none is open that far inside. Brackets need no indentation. -/
def openAt (lexer : Lexer) (column position : Nat) (token : Token) : Lexer :=
  if lexer.inFlow || !lexer.columns.head?.all (· < column) then lexer
  else { lexer.insert position token with columns := column :: lexer.columns }

/-- Closes the collections whose column does not stay open. -/
def closeBlocks (lexer : Lexer) (stays : Nat → Bool) : Lexer :=
  if lexer.inFlow then lexer
  else
    let closed := lexer.columns.takeWhile fun column => !stays column
    let tokens := closed.map fun _ => Token.blockEnd
    { lexer with
      tokens := tokens ++ lexer.tokens
      count := lexer.count + tokens.length
      columns := lexer.columns.drop closed.length }

/-- A place in a text: what is known there, and what follows. -/
abbrev Place := Lexer × List Cell

/-! ## Tokens -/

/-- A token at the start of a line that ends all collections. -/
def atMargin (lexer : Lexer) : Option Lexer := do
  let lexer ← (lexer.closeBlocks fun _ => false).dropCandidate
  return { lexer with keyAllowed := false }

/-- A marker between documents. -/
def marker (lexer : Lexer) (token : Token) (rest : List Cell) : Option Place := do
  let lexer ← lexer.atMargin
  return (lexer.push token, rest)

/-- A number in a version: at most nine digits. -/
def versionNumber? (cells : List Cell) : Option (Nat × List Cell) :=
  let digits := (cells.takeWhile fun cell => cell.char.isDigit).map Cell.char
  if digits.isEmpty || 9 < digits.length then none
  else
    let value := digits.foldl (fun value digit => value * 10 + (digit.toNat - '0'.toNat)) 0
    some (value, cells.drop digits.length)

/-- A directive, behind its percent sign. -/
def directive (lexer : Lexer) (cells : List Cell) : Option Place := do
  let lexer ← lexer.atMargin
  let name := (cells.takeWhile fun cell => isNameChar cell.char).map Cell.char
  let behind := cells.drop name.length
  if !endsWord behind then none
  else if name = "YAML".toList then do
    let (major, point) ← versionNumber? (dropBlanks behind)
    if !startsWith '.' point then none
    else
      let (minor, rest) ← versionNumber? (point.drop 1)
      return (lexer.push (.version major minor), ← lineRest? rest)
  else if name = "TAG".toList then do
    let found ← handleMeaning? behind
    return (lexer.push (.handle (String.ofList found.handle) found.suffix),
      ← lineRest? found.rest)
  else none

/-- An opening bracket. -/
def openFlow (lexer : Lexer) (token : Token) (place : Cell) (rest : List Cell) : Option Place := do
  let lexer ← lexer.noteCandidate place
  let inside : Lexer :=
    { lexer with candidate := none, outer := lexer.candidate :: lexer.outer, keyAllowed := true }
  return (inside.push token, rest)

/-- A closing bracket. -/
def closeFlow (lexer : Lexer) (token : Token) (rest : List Cell) : Option Place := do
  let lexer ← lexer.dropCandidate
  let outside : Lexer :=
    match lexer.outer with
    | [] => { lexer with keyAllowed := false }
    | candidate :: outer => { lexer with candidate, outer, keyAllowed := false }
  return (outside.push token, rest)

/-- A comma. -/
def comma (lexer : Lexer) (rest : List Cell) : Option Place := do
  let lexer ← lexer.dropCandidate
  return ({ lexer with keyAllowed := true }.push .comma, rest)

/-- The dash before an element. -/
def dash (lexer : Lexer) (place : Cell) (rest : List Cell) : Option Place :=
  if !lexer.inFlow && !lexer.keyAllowed then none
  else do
    let lexer ← (lexer.openAt place.column lexer.count .sequenceStart).dropCandidate
    return ({ lexer with keyAllowed := true }.push .dash, rest)

/-- The question mark before a key. -/
def question (lexer : Lexer) (place : Cell) (rest : List Cell) : Option Place :=
  if !lexer.inFlow && !lexer.keyAllowed then none
  else do
    let lexer ← (lexer.openAt place.column lexer.count .mappingStart).dropCandidate
    return ({ lexer with keyAllowed := !lexer.inFlow }.push .key, rest)

/-- The colon before a value. If a token before it may start a key, it does. -/
def colon (lexer : Lexer) (place : Cell) (rest : List Cell) : Option Place :=
  match lexer.candidate with
  | some key =>
      let keyed := (lexer.insert key.position .key).openAt key.place.column key.position
        .mappingStart
      some ({ keyed with candidate := none, keyAllowed := false }.push .value, rest)
  | none =>
      if !lexer.inFlow && !lexer.keyAllowed then none
      else
        let opened := lexer.openAt place.column lexer.count .mappingStart
        some ({ opened with keyAllowed := !lexer.inFlow }.push .value, rest)

/-- The name of an anchor, and what follows it. -/
def anchorName? (cells : List Cell) : Option (String × List Cell) :=
  let name := (cells.takeWhile fun cell => isNameChar cell.char).map Cell.char
  let rest := cells.drop name.length
  let ends := endsWord rest || rest.head?.any fun cell => "?:,]\x7d%@`".toList.contains cell.char
  if !name.isEmpty && ends then some (String.ofList name, rest) else none

/-- An anchor or an alias. -/
def anchored (lexer : Lexer) (token : String → Token) (place : Cell) (rest : List Cell) :
    Option Place := do
  let lexer ← lexer.noteCandidate place
  let (name, behind) ← anchorName? rest
  return ({ lexer with keyAllowed := false }.push (token name), behind)

/-- A tag. -/
def tagged (lexer : Lexer) (place : Cell) (rest : List Cell) : Option Place := do
  let lexer ← lexer.noteCandidate place
  let found ← tag? lexer.inFlow (place :: rest)
  return ({ lexer with keyAllowed := false }.push
    (.tag (String.ofList found.handle) found.suffix), found.rest)

/-- A block of text. -/
def block (lexer : Lexer) (folded : Bool) (rest : List Cell) : Option Place := do
  let lexer ← lexer.dropCandidate
  let (text, behind) ← blockText? folded lexer.margin rest
  return ({ lexer with keyAllowed := true }.push (.scalar false text), behind)

/-- A quoted scalar. -/
def quoted (lexer : Lexer) (place : Cell) (rest : List Cell) : Option Place := do
  let lexer ← lexer.noteCandidate place
  let (text, behind) ← quoted? place.char rest
  return ({ lexer with keyAllowed := false }.push (.scalar false text), behind)

/-- A plain scalar. -/
def plain (lexer : Lexer) (place : Cell) (rest : List Cell) : Option Place :=
  if startsPlain lexer.inFlow place.char rest then do
    let lexer ← lexer.noteCandidate place
    let scalar ← plain? lexer.inFlow lexer.margin (place :: rest)
    return ({ lexer with keyAllowed := scalar.endsLine }.push (.scalar true scalar.text),
      scalar.rest)
  else none

/-- The token at a place that is not the start of a line. -/
def token (lexer : Lexer) (place : Cell) (rest : List Cell) : Option Place :=
  let ends := endsWord rest
  match place.char with
  | '[' => lexer.openFlow .openBracket place rest
  | '\x7b' => lexer.openFlow .openBrace place rest
  | ']' => lexer.closeFlow .closeBracket rest
  | '\x7d' => lexer.closeFlow .closeBrace rest
  | ',' => lexer.comma rest
  | '-' => if ends then lexer.dash place rest else lexer.plain place rest
  | '?' => if lexer.inFlow || ends then lexer.question place rest else lexer.plain place rest
  | ':' => if lexer.inFlow || ends then lexer.colon place rest else lexer.plain place rest
  | '*' => lexer.anchored .alias place rest
  | '&' => lexer.anchored .anchor place rest
  | '!' => lexer.tagged place rest
  | '|' => if lexer.inFlow then none else lexer.block false rest
  | '>' => if lexer.inFlow then none else lexer.block true rest
  | '"' => lexer.quoted place rest
  | '\'' => lexer.quoted place rest
  | _ => lexer.plain place rest

/-- The token at a place. -/
def step (lexer : Lexer) (place : Cell) (rest : List Cell) : Option Place :=
  if place.column = 0 && place.char == '%' then lexer.directive rest
  else
    match markerRest? '-' (place :: rest), markerRest? '.' (place :: rest) with
    | some behind, _ => lexer.marker .documentStart behind
    | none, some behind => lexer.marker .documentEnd behind
    | none, none => lexer.token place rest

/-! ## Between tokens -/

/-- Skips blanks, comments and line breaks, and tells whether a key may start behind them. Outside
of brackets a key may start on a new line, and a tab may not stand before one. -/
def skipGap (inFlow inComment keyAllowed : Bool) : List Cell → Bool × List Cell
  | [] => (keyAllowed, [])
  | cell :: rest =>
      if isBreak cell.char then skipGap inFlow false (keyAllowed || !inFlow) rest
      else if inComment then skipGap inFlow true keyAllowed rest
      else if cell.char == ' ' || (cell.char == '\t' && (inFlow || !keyAllowed)) ||
          (cell.char == byteOrderMark && cell.column = 0) then
        skipGap inFlow false keyAllowed rest
      else if cell.char == '#' then skipGap inFlow true keyAllowed rest
      else (keyAllowed, cell :: rest)

/-- The lexer at the end of a text. -/
def finish (lexer : Lexer) : Option Lexer :=
  (lexer.closeBlocks fun _ => false).dropCandidate

/-- Reads all that is left of a text. Every token has a character. -/
def run : Nat → Lexer → List Cell → Option Lexer
  | 0, _, _ => none
  | fuel + 1, lexer, cells =>
      let (keyAllowed, left) := skipGap lexer.inFlow false lexer.keyAllowed cells
      let lexer := { lexer with keyAllowed }
      match left with
      | [] => lexer.finish
      | place :: rest => do
          let lexer ← lexer.expire place
          let (next, behind) ← (lexer.closeBlocks (· ≤ place.column)).step place rest
          run fuel next behind

end Lexer

/-- The tokens of a text. -/
def Token.ofText? (text : String) : Option (List Token) := do
  let cells ← cells? text
  let lexer ← Lexer.run (cells.length + 1) .start cells
  return lexer.tokens.reverse

end Yaml

end VolumeMigration
