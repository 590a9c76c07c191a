import VolumeMigration.Yaml.Cell

/-!
# Blocks of text in YAML

A block of text starts with a header of its own and goes on in the lines below it that are indented
enough; the indentation is not part of the text. A literal block keeps its line breaks, a folded one
joins lines that start with a word.
-/

namespace VolumeMigration

namespace Yaml

/-- What becomes of the line breaks at the end of a block. -/
inductive Chomping where
  | clip
  | strip
  | keep
  deriving DecidableEq

/-- The header of a block. -/
structure BlockHeader where
  chomping : Chomping
  /-- By how much the lines are indented, if the header says so. -/
  increment : Option Nat

/-- The chomping that a character asks for. -/
def chomping? (char : Char) : Option Chomping :=
  if char == '-' then some .strip else if char == '+' then some .keep else none

/-- The indentation that a character asks for. -/
def increment? (char : Char) : Option Nat :=
  if '1' ≤ char ∧ char ≤ '9' then some (char.toNat - '0'.toNat) else none

/-- The header at the start of some cells, and what follows it. Chomping and indentation may come in
either order. -/
def blockHeader (cells : List Cell) : BlockHeader × List Cell :=
  match cells with
  | [] => (⟨.clip, none⟩, [])
  | first :: rest =>
      match chomping? first.char, increment? first.char with
      | some chomping, _ =>
          match rest.head?.bind fun cell => increment? cell.char with
          | some increment => (⟨chomping, some increment⟩, rest.drop 1)
          | none => (⟨chomping, none⟩, rest)
      | none, some increment =>
          match rest.head?.bind fun cell => chomping? cell.char with
          | some chomping => (⟨chomping, some increment⟩, rest.drop 1)
          | none => (⟨.clip, some increment⟩, rest)
      | none, none => (⟨.clip, none⟩, cells)

/-- What stands before the next line that is not empty. -/
structure Indentation where
  /-- The largest column that was reached. -/
  widest : Nat
  breaks : List Char
  rest : List Cell

/-- Skips indentation up to a margin, or all of it if the margin is not known yet, and the empty
lines before it. No tab may stand there. -/
def indentation? (margin : Option Nat) (widest : Nat) (breaks : List Char) :
    List Cell → Option Indentation
  | [] => some ⟨widest, breaks.reverse, []⟩
  | cell :: rest =>
      let before := margin.all (cell.column < ·)
      if before && cell.char == ' ' then indentation? margin widest breaks rest
      else if before && cell.char == '\t' then none
      else if isBreak cell.char then
        indentation? margin (max widest cell.column) (cell.char :: breaks) rest
      else some ⟨max widest cell.column, breaks.reverse, cell :: rest⟩

/-- The text of a block that was read so far. -/
structure BlockText where
  /-- Its characters, the last one first. -/
  read : List Char
  /-- The break at the end of its last line, and those of the empty lines behind it. -/
  lastBreak : List Char
  emptyLines : List Char
  /-- Whether its last line starts with a blank. -/
  blank : Bool

namespace BlockText

/-- The text of a block that has no line yet. -/
def start (emptyLines : List Char) : BlockText := ⟨[], [], emptyLines, false⟩

/-- The characters with the breaks behind the last line, before a further line. -/
def joined (text : BlockText) (folded blank : Bool) : List Char :=
  let folds := folded && text.lastBreak == ['\n'] && !text.blank && !blank
  let first : List Char :=
    if !folds then text.lastBreak else if text.emptyLines.isEmpty then [' '] else []
  text.emptyLines.reverse ++ first ++ text.read

/-- The text of a block, with the line breaks at its end that are kept. -/
def finish (text : BlockText) (chomping : Chomping) : String :=
  let ending :=
    match chomping with
    | .strip => []
    | .clip => text.lastBreak
    | .keep => text.lastBreak ++ text.emptyLines
  String.ofList (text.read.reverse ++ ending)

end BlockText

/-- The lines of a block at a margin, and what follows them. -/
def blockLines (folded : Bool) (margin : Nat) :
    Nat → BlockText → List Cell → Option (BlockText × List Cell)
  | 0, _, _ => none
  | fuel + 1, text, cells =>
      match cells with
      | [] => some (text, [])
      | cell :: _ =>
          if cell.column ≠ margin then some (text, cells)
          else do
            let blank := isBlank cell.char
            let line := (cells.takeWhile fun cell => !isBreak cell.char).map Cell.char
            let behind := dropLine cells
            let next ← indentation? (some margin) 0 [] (behind.drop 1)
            let read : BlockText := {
              read := line.reverse ++ text.joined folded blank
              lastBreak := (behind.head?.map Cell.char).toList
              emptyLines := next.breaks
              blank }
            blockLines folded margin fuel read next.rest

/-- The text of a block behind its first character, and what follows it. The margin of what encloses
the block is one column behind its indentation, or zero. -/
def blockText? (folded : Bool) (margin : Nat) (cells : List Cell) :
    Option (String × List Cell) := do
  let (header, behind) := blockHeader cells
  let below ← lineRest? behind
  let given := header.increment.map (margin - 1 + ·)
  let start ← indentation? given 0 [] below
  let margin := given.getD (max start.widest (max margin 1))
  let (text, rest) ← blockLines folded margin (below.length + 1) (.start start.breaks) start.rest
  return (text.finish header.chomping, rest)

end Yaml

end VolumeMigration
