import VolumeMigration.Yaml.Cell

/-!
# Folded line breaks

Between two words of a scalar stand blanks or line breaks. Blanks on one line are kept. Blanks
around a line break are dropped, and the break itself becomes a blank; of several breaks the first
is dropped and the others are kept. `Gap.text` is what a gap between two words becomes.
-/

namespace VolumeMigration

namespace Yaml

/-- What was read since the last word of a scalar; characters with the last one first. -/
inductive Gap where
  | none
  | blanks (chars : List Char)
  /-- Line breaks. The first one is absent if it was escaped. -/
  | breaks (first : Option Char) (more : List Char)
  deriving DecidableEq

namespace Gap

/-- A gap with one more blank or break. -/
def push (gap : Gap) (char : Char) : Gap :=
  match gap with
  | .breaks first more => if isBreak char then .breaks first (char :: more) else gap
  | .blanks chars => if isBreak char then .breaks (some char) [] else .blanks (char :: chars)
  | .none => if isBreak char then .breaks (some char) [] else .blanks [char]

/-- Whether a gap has line breaks. -/
def isBroken : Gap → Bool
  | .breaks _ _ => true
  | _ => false

/-- What a gap between two words becomes. -/
def text : Gap → List Char
  | .none => []
  | .blanks chars => chars.reverse
  | .breaks (some '\n') [] => [' ']
  | .breaks (some '\n') more => more.reverse
  | .breaks first more => first.toList ++ more.reverse

/-- The characters of a scalar with a gap behind them, the last one first. -/
def close (gap : Gap) (read : List Char) : List Char :=
  gap.text.reverse ++ read

end Gap

/-- One line break becomes a blank. -/
example : ((Gap.none.push '\n').push ' ').text = [' '] := rfl

/-- Of two line breaks the second is kept. -/
example : (((Gap.blanks [' ']).push '\n').push '\n').text = ['\n'] := rfl

end Yaml

end VolumeMigration
