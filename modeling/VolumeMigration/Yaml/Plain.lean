import VolumeMigration.Yaml.Folding

/-!
# Plain YAML scalars

A plain scalar has no quotes. It ends before a comment, before a colon that ends a word, before the
marker of a document, and outside of brackets where a line is indented too little; inside brackets
also before a comma or a bracket.
-/

namespace VolumeMigration

namespace Yaml

/-- Whether a character has a meaning of its own at the start of a word. -/
def isIndicator (char : Char) : Bool :=
  "-?:,[]\x7b\x7d#&*!|>'\"%@`".toList.contains char

/-- Whether a character ends a plain scalar inside brackets. -/
def isBracketOrComma (char : Char) : Bool :=
  ",[]\x7b\x7d".toList.contains char

/-- Whether a plain scalar starts with a character before some cells. A dash, and outside of
brackets a question mark or a colon, may start one if a word goes on behind it. -/
def startsPlain (inFlow : Bool) (char : Char) (rest : List Cell) : Bool :=
  if char == '-' then !startsBlank rest
  else if char == '?' || char == ':' then !inFlow && !endsWord rest
  else !isIndicator char && !isBlank char

/-- A plain scalar that was read. -/
structure PlainScalar where
  text : String
  /-- Whether a line ended behind its last word. -/
  endsLine : Bool
  /-- The cells behind it. -/
  rest : List Cell

/-- Whether the colon before some cells ends a scalar that may be a key. -/
def isKeyColon (char : Char) (rest : List Cell) : Bool :=
  char == ':' && endsWord rest

/-- Whether the colon before some cells is misplaced inside brackets. -/
def isStrayColon (char : Char) (rest : List Cell) : Bool :=
  char == ':' && rest.head?.any fun next => isBracketOrComma next.char || next.char == '?'

/-- Whether a scalar with a gap behind it ends before some cells. -/
def Gap.endsPlain (gap : Gap) (inFlow : Bool) (margin : Nat) (cells : List Cell) : Bool :=
  gap != .none &&
    (startsWith '#' cells || startsMarker cells ||
      (!inFlow && cells.head?.any fun cell => cell.column < margin))

/-- The rest of a plain scalar whose first characters were read, the last one first. A line that
goes on with it is indented to the margin at least, without a tab before the margin. -/
def plainFrom (inFlow : Bool) (margin : Nat) (read : List Char) (gap : Gap) :
    List Cell → Option PlainScalar
  | [] => some ⟨String.ofList read.reverse, gap.isBroken, []⟩
  | cell :: rest =>
      if cell.isSpace then
        if gap.isBroken && cell.char == '\t' && cell.column < margin then none
        else plainFrom inFlow margin read (gap.push cell.char) rest
      else if gap.endsPlain inFlow margin (cell :: rest) then
        some ⟨String.ofList read.reverse, gap.isBroken, cell :: rest⟩
      else if inFlow && isStrayColon cell.char rest then none
      else if isKeyColon cell.char rest || (inFlow && isBracketOrComma cell.char) then
        some ⟨String.ofList read.reverse, gap.isBroken, cell :: rest⟩
      else plainFrom inFlow margin (cell.char :: gap.close read) .none rest

/-- The plain scalar at the start of some cells. -/
def plain? (inFlow : Bool) (margin : Nat) (cells : List Cell) : Option PlainScalar :=
  plainFrom inFlow margin [] .none cells

end Yaml

end VolumeMigration
