import VolumeMigration.Text.Hexadecimal
import VolumeMigration.Text.Split

/-!
# Uniform resource identifiers

`Uri.parse?` takes a text apart into scheme, authority, path and query; what follows a `#` is left
out. A text that starts with a slash is a path, perhaps with a query. One without a scheme is an
authority: a host, perhaps with a user and a port.
-/

namespace VolumeMigration

/-- A uniform resource identifier. -/
structure Uri where
  scheme : Option String
  authority : Option String
  path : String
  query : Option String
  deriving DecidableEq

namespace Uri

/-- The number of bytes that an identifier may have. -/
def sizeLimit : Nat := 65534

/-- Whether a character can stand in a scheme. -/
def isSchemeChar (char : Char) : Bool :=
  char.isAlphanum || "+-.~".toList.contains char

/-- Whether a character may stand in an authority beside colons, brackets and `@`. -/
def isHostChar (char : Char) : Bool :=
  char.isAlphanum || "!$&'()*+,-.;=_~".toList.contains char

/-- Whether a character ends the part that names the server. -/
def endsAuthority (char : Char) : Bool :=
  char == '/' || char == '?' || char == '#'

/-- Whether a character can stand in a path. -/
def isPathChar (char : Char) : Bool :=
  0x20 < char.toNat && !"#<>?`".toList.contains char

/-- Whether a character can stand in a query. -/
def isQueryChar (char : Char) : Bool :=
  0x20 < char.toNat && !"\"#<>".toList.contains char

/-! ## Authorities -/

/-- What was seen of an authority. -/
structure AuthorityState where
  /-- The colons since the last user or bracket. -/
  colons : Nat
  opened : Bool
  closed : Bool
  /-- Whether there is a percent sign since the last user or bracket. -/
  percent : Bool
  /-- Whether the last character was `@`. -/
  afterUser : Bool

namespace AuthorityState

/-- The state before the first character. -/
def start : AuthorityState :=
  { colons := 0, opened := false, closed := false, percent := false, afterUser := false }

/-- One more character of an authority, unless it is misplaced. -/
def step (state : AuthorityState) (char : Char) : Option AuthorityState :=
  let next := { state with afterUser := char == '@' }
  match char with
  | ':' => if state.colons < 8 then some { next with colons := state.colons + 1 } else none
  | '[' => if state.percent || state.opened then none else some { next with opened := true }
  | ']' =>
      if !state.opened || state.closed then none
      else some { next with closed := true, colons := 0, percent := false }
  | '@' => some { next with colons := 0, percent := false }
  | '%' => some { next with percent := true }
  | char => if isHostChar char then some next else none

/-- Whether an authority can end in a state. -/
def isComplete (state : AuthorityState) : Bool :=
  state.opened == state.closed && state.colons ≤ 1 && !state.afterUser && !state.percent

end AuthorityState

/-- Whether characters are an authority, which may be empty. Only a user and an address between
brackets may hold a percent sign or more than one colon. -/
def isAuthority (chars : List Char) : Bool :=
  (chars.foldlM AuthorityState.step .start).any AuthorityState.isComplete

/-! ## Parts -/

/-- A path with a query, perhaps, and without a scheme. -/
def ofPath? (scheme authority : Option String) (chars : List Char) : Option Uri :=
  let path := chars.takeWhile fun char => char != '?' && char != '#'
  let query : Option (List Char) :=
    match chars.drop path.length with
    | '?' :: rest => some (rest.takeWhile (· != '#'))
    | _ => none
  if path.all isPathChar && query.all (·.all isQueryChar) then
    some {
      scheme, authority
      path := if path.isEmpty then "/" else String.ofList path
      query := query.map String.ofList }
  else none

/-- The scheme in front of `://`, and what follows them. It has at most 64 characters; those of the
two standard schemes may be capital letters. -/
def scheme? (chars : List Char) : Option (Option (String × List Char)) :=
  let scheme := chars.takeWhile isSchemeChar
  match chars.drop scheme.length with
  | ':' :: '/' :: '/' :: rest =>
      let lower := scheme.map Char.toLower
      let isStandard := lower = "http".toList || lower = "https".toList
      if 64 < scheme.length then none
      else some (some (String.ofList (if isStandard then lower else scheme), rest))
  | _ => some none

/-- The parts of an address. -/
def parse? (text : String) : Option Uri :=
  if text = "" || sizeLimit < text.utf8ByteSize then none
  else if text = "*" then
    some { scheme := none, authority := none, path := "*", query := none }
  else if text.toList.head? = some '/' then ofPath? none none text.toList
  else do
    match ← scheme? text.toList with
    | none =>
        if isAuthority text.toList then
          some { scheme := none, authority := some text, path := "", query := none }
        else none
    | some (scheme, rest) =>
        let authority := rest.takeWhile fun char => !endsAuthority char
        if !authority.isEmpty && isAuthority authority then
          ofPath? (some scheme) (some (String.ofList authority)) (rest.drop authority.length)
        else none

/-- A uniform resource identifier as it is written. -/
def text (uri : Uri) : String :=
  (uri.scheme.map (· ++ "://")).getD "" ++ uri.authority.getD "" ++ uri.path ++
    (uri.query.map ("?" ++ ·)).getD ""

/-! ## Queries -/

/-- The bytes that a part of a query stands for: a plus sign stands for a blank, and a percent sign
with two hexadecimal digits for a byte. -/
def partBytes : List Char → List UInt8
  | [] => []
  | '+' :: rest => 0x20 :: partBytes rest
  | '%' :: first :: second :: rest =>
      match Text.hexDigit? first, Text.hexDigit? second with
      | some high, some low => UInt8.ofNat (high * 16 + low) :: partBytes rest
      | _, _ => 0x25 :: partBytes (first :: second :: rest)
  | char :: rest => (String.singleton char).toUTF8.toList ++ partBytes rest

/-- The text that a part of a query stands for, or the part as it is written if that is no text. -/
def partText (chars : List Char) : String :=
  (String.fromUTF8? ⟨(partBytes chars).toArray⟩).getD (String.ofList chars)

/-- The names and values in the query, in the order in which they are written. -/
def queryPairs (uri : Uri) : List (String × String) :=
  let pieces := (Text.splitChars '&' (uri.query.getD "").toList).filter fun piece => !piece.isEmpty
  pieces.map fun piece =>
    let name := piece.takeWhile (· != '=')
    (partText name, partText (piece.drop (name.length + 1)))

end Uri

end VolumeMigration
