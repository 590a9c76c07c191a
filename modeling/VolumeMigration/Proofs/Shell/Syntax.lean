import Mathlib.Data.List.Forall2
import VolumeMigration.Proofs.Text.Split

/-!
# Reading a shell script

A part of the POSIX shell language: words of letters, double quotes, `$name` and sums such as
`$((n+1))`, assignments, commands joined by `&&`, and `until` loops. `Shell.scan` reads characters
into tokens and `Shell.parse?` a text into a command. Characters and words that mean something else
to a shell, such as redirections, patterns of file names and the other compound commands, are
refused.
-/

namespace VolumeMigration

namespace Shell

/-! ## Words -/

/-- The characters that do not stand for themselves in a word without quotes. -/
def metacharacters : List Char :=
  ['|', '&', ';', '<', '>', '(', ')', '$', '\x60', '\\', '"', '\'', ' ', '\t', '\n', '*', '?', '[']

/-- The characters that do not stand for themselves in a word, or in double quotes. -/
def specials (quoted : Bool) : List Char :=
  if quoted then ['$', '\x60', '\\', '"'] else metacharacters

/-- A part of a sum. -/
inductive Summand where
  | number (value : Nat)
  | parameter (name : String)
  deriving DecidableEq

/-- A part of a word, and whether it stands in double quotes. -/
inductive Piece where
  | letter (quoted : Bool) (char : Char)
  | parameter (quoted : Bool) (name : String)
  | sum (quoted : Bool) (summands : List Summand)
  deriving DecidableEq

/-- A word, part by part. -/
abbrev Word := List Piece

/-- Of characters that are known it can be computed that none is special. -/
theorem unspecial_of_all {quoted : Bool} {chars : List Char}
    (all : chars.all (fun char => !(specials quoted).contains char) = true) :
    ∀ char ∈ chars, char ∉ specials quoted := by
  simpa using all

/-- The word of some characters that stand for themselves. -/
def letters (quoted : Bool) (chars : List Char) : Word :=
  chars.map (.letter quoted)

/-- What the characters of a text are read into. -/
inductive Token where
  | word (pieces : Word)
  | separator
  | conjunction
  deriving DecidableEq

/-! ## Tokens -/

/-- Where in a text a reader is. -/
inductive Mode where
  | between
  | inWord (quoted : Bool) (pieces : Word)
  | atDollar (quoted : Bool) (pieces : Word)
  | inName (quoted : Bool) (pieces : Word) (name : List Char)
  | atParenthesis (quoted : Bool) (pieces : Word)
  | inSum (quoted : Bool) (pieces : Word) (text : List Char)
  | atClosing (quoted : Bool) (pieces : Word) (text : List Char)
  | atAmpersand
  deriving DecidableEq

/-- Whether a character separates words. -/
def isBlank (char : Char) : Bool :=
  char == ' ' || char == '\t'

/-- Whether a character ends a command. -/
def endsCommand (char : Char) : Bool :=
  char == '\n' || char == ';'

/-- Whether the name of a variable can begin with a character. -/
def startsName (char : Char) : Bool :=
  char.isAlpha || char == '_'

/-- Whether a character can stand in the name of a variable. -/
def isNameChar (char : Char) : Bool :=
  char.isAlphanum || char == '_'

/-- The summand that some characters are. A number with zeros in front of it is none. -/
def summand? (text : List Char) : Option Summand :=
  match text with
  | [] => none
  | first :: _ =>
      if text.all Char.isDigit then
        if first = '0' ∧ text ≠ ['0'] then none
        else some (.number (Nat.ofDigitChars 10 text 0))
      else if startsName first ∧ text.all isNameChar then some (.parameter (.ofList text))
      else none

/-- A character of a word, or the one behind it. -/
def wordStep (quoted : Bool) (pieces : Word) (char : Char) : Option (List Token × Mode) :=
  -- Escapes, substitutions of commands and redirections are outside of the part that is read.
  if char = '"' then some ([], .inWord (!quoted) pieces)
  else if char = '$' then some ([], .atDollar quoted pieces)
  else if quoted then
    if char = '\x60' ∨ char = '\\' then none
    else some ([], .inWord true (pieces ++ [.letter true char]))
  else if isBlank char then some ([.word pieces], .between)
  else if endsCommand char then some ([.word pieces, .separator], .between)
  else if char = '&' then some ([.word pieces], .atAmpersand)
  else if char ∈ ['|', '<', '>', '(', ')', '\x60', '\\', '\''] then none
  else some ([], .inWord false (pieces ++ [.letter false char]))

/-- One more character of a text. -/
def step (mode : Mode) (char : Char) : Option (List Token × Mode) :=
  match mode with
  | .between =>
      if isBlank char then some ([], .between)
      else if endsCommand char then some ([.separator], .between)
      else if char = '&' then some ([], .atAmpersand)
      else if char = '#' ∨ char = '~' then none
      else wordStep false [] char
  | .inWord quoted pieces => wordStep quoted pieces char
  | .atDollar quoted pieces =>
      if char = '(' then some ([], .atParenthesis quoted pieces)
      else if startsName char then some ([], .inName quoted pieces [char])
      else none
  | .inName quoted pieces name =>
      if isNameChar char then some ([], .inName quoted pieces (name ++ [char]))
      else wordStep quoted (pieces ++ [.parameter quoted (.ofList name)]) char
  | .atParenthesis quoted pieces =>
      if char = '(' then some ([], .inSum quoted pieces []) else none
  | .inSum quoted pieces text =>
      if char = ')' then some ([], .atClosing quoted pieces text)
      else some ([], .inSum quoted pieces (text ++ [char]))
  | .atClosing quoted pieces text =>
      if char = ')' then
        ((text.splitOn '+').mapM summand?).map fun summands =>
          ([], .inWord quoted (pieces ++ [.sum quoted summands]))
      else none
  | .atAmpersand => if char = '&' then some ([.conjunction], .between) else none

/-- The tokens that some characters complete, and where the reader then is. -/
def scan (mode : Mode) : List Char → Option (List Token × Mode)
  | [] => some ([], mode)
  | char :: rest => do
      let (tokens, next) ← step mode char
      let (others, last) ← scan next rest
      return (tokens ++ others, last)

/-- The tokens of a text that ends between two words. -/
def tokens? (text : String) : Option (List Token) := do
  let (tokens, mode) ← scan .between text.toList
  if mode = .between then some tokens else none

/-- A text is read one character at a time. -/
theorem scan_cons_iff {mode last : Mode} {char : Char} {rest : List Char} {tokens : List Token} :
    scan mode (char :: rest) = some (tokens, last) ↔
      ∃ first next others, step mode char = some (first, next) ∧
        scan next rest = some (others, last) ∧ tokens = first ++ others := by
  simp only [scan, Option.bind_eq_bind, Option.bind_eq_some_iff, Option.pure_def,
    Option.some.injEq, Prod.exists, Prod.mk.injEq]
  constructor
  · rintro ⟨first, next, stepped, others, _, scanned, rfl, rfl⟩
    exact ⟨first, next, others, stepped, scanned, rfl⟩
  · rintro ⟨first, next, others, stepped, scanned, rfl⟩
    exact ⟨first, next, stepped, others, last, scanned, rfl, rfl⟩

/-- A text is read part by part. -/
theorem scan_append {mode next last : Mode} {front back : List Char} {tokens others : List Token}
    (first : scan mode front = some (tokens, next))
    (second : scan next back = some (others, last)) :
    scan mode (front ++ back) = some (tokens ++ others, last) := by
  induction front generalizing mode tokens with
  | nil =>
      rw [scan, Option.some.injEq, Prod.mk.injEq] at first
      rcases first with ⟨rfl, rfl⟩
      exact second
  | cons char front ih =>
      rcases scan_cons_iff.mp first with ⟨stepped, after, scanned, step_eq, scan_eq, rfl⟩
      apply scan_cons_iff.mpr
      refine ⟨stepped, after, scanned ++ others, step_eq, ih scan_eq, ?_⟩
      simp

/-- Lines that each end between two words are read one after the other. -/
theorem scan_lines {lines : List String} {tokens : List (List Token)}
    (read : List.Forall₂ (fun line tokens =>
      scan .between (String.toList line ++ ['\n']) = some (tokens, .between)) lines tokens) :
    scan .between (String.join (lines.map (· ++ "\n"))).toList =
      some (tokens.flatten, .between) := by
  induction read with
  | nil => rfl
  | cons first others ih =>
      have joined := scan_append first ih
      simpa [String.toList_join] using joined

/-- A character that is not special becomes a letter of its word. -/
theorem wordStep_letter {quoted : Bool} {char : Char} (plain : char ∉ specials quoted)
    (pieces : Word) :
    wordStep quoted pieces char =
      some ([], .inWord quoted (pieces ++ [.letter quoted char])) := by
  cases quoted
  · simp [specials, metacharacters] at plain
    simp [wordStep, isBlank, endsCommand, plain]
  · simp [specials] at plain
    simp [wordStep, plain]

/-- A word, or what is in quotes, goes on up to a character that is special there. -/
theorem scan_letters {quoted : Bool} {chars : List Char}
    (plain : ∀ char ∈ chars, char ∉ specials quoted) (pieces : Word) :
    scan (.inWord quoted pieces) chars =
      some ([], .inWord quoted (pieces ++ letters quoted chars)) := by
  induction chars generalizing pieces with
  | nil => simp [scan, letters]
  | cons char chars ih =>
      rw [List.forall_mem_cons] at plain
      simp [scan, step, wordStep_letter plain.1, ih plain.2, letters]

/-! ## Arguments -/

/-- A text that a script writes as one word, in quotes or without them. -/
structure Argument where
  quoted : Bool
  text : String
  deriving DecidableEq

namespace Argument

/-- The argument as it stands in a text. -/
def written (argument : Argument) : String :=
  if argument.quoted then "\"" ++ argument.text ++ "\"" else argument.text

/-- The argument as it is read. -/
def word (argument : Argument) : Word :=
  letters argument.quoted argument.text.toList

/-- The shell reads the argument as its characters. Without quotes it has a first character, which
begins neither a comment nor the name of a directory. -/
structure IsPlain (argument : Argument) : Prop where
  unspecial : ∀ char ∈ argument.text.toList, char ∉ specials argument.quoted
  begun : argument.quoted = false → argument.text.toList.head? ∉ [none, some '#', some '~']

end Argument

/-- Between words a character that is not special begins one. -/
theorem step_between {char : Char} (plain : char ∉ specials false) (uncommented : char ≠ '#')
    (untilded : char ≠ '~') : step .between char = wordStep false [] char := by
  simp [specials, metacharacters] at plain
  simp [step, isBlank, endsCommand, plain, uncommented, untilded]

/-- An argument is read back up to its end. -/
theorem scan_written {argument : Argument} (plain : argument.IsPlain) :
    scan .between argument.written.toList = some ([], .inWord false argument.word) := by
  rcases argument with ⟨quoted, text⟩
  cases quoted with
  | true =>
      have opened : scan .between ['"'] = some ([], .inWord true []) := rfl
      have inside := scan_letters plain.unspecial []
      have closed : scan (.inWord true ([] ++ letters true text.toList)) ['"'] =
          some ([], .inWord false ([] ++ letters true text.toList)) := rfl
      have read := scan_append (scan_append opened inside) closed
      simpa [Argument.written, Argument.word] using read
  | false =>
      have inside := scan_letters plain.unspecial []
      have begun := plain.begun rfl
      cases chars : text.toList with
      | nil => simp [chars] at begun
      | cons first rest =>
          have first_plain : first ∉ specials false := by
            apply plain.unspecial
            simp [chars]
          simp only [chars] at begun inside
          simp at begun
          have same : step .between first = step (.inWord false []) first :=
            step_between first_plain begun.1 begun.2
          rw [List.nil_append, scan, ← same] at inside
          simpa [Argument.written, Argument.word, chars, scan] using inside

/-- Arguments with a blank behind each are as many words. -/
theorem scan_arguments {arguments : List Argument}
    (plain : ∀ argument ∈ arguments, argument.IsPlain) :
    scan .between (arguments.flatMap fun argument => argument.written.toList ++ [' ']) =
      some (arguments.map fun argument => .word argument.word, .between) := by
  induction arguments with
  | nil => rfl
  | cons argument arguments ih =>
      rw [List.forall_mem_cons] at plain
      have parted : scan (.inWord false argument.word) [' '] =
          some ([.word argument.word], .between) := rfl
      exact scan_append (scan_append (scan_written plain.1) parted) (ih plain.2)

section

variable {char : Char} {number : Nat}

theorem isDigit_of_mem_toString (char_mem : char ∈ (toString number).toList) :
    char.isDigit = true := by
  cases digital : char.isDigit with
  | true => rfl
  | false =>
      have absent := Text.not_mem_toDigits digital number
      simp [absent] at char_mem

/-- Digits are not special anywhere. -/
theorem toString_unspecial (quoted : Bool) (number : Nat) :
    ∀ char ∈ (toString number).toList, char ∉ specials quoted := by
  intro char char_mem special
  have undigital : (specials quoted).all (fun special => !special.isDigit) = true := by
    cases quoted <;> decide
  have digital := isDigit_of_mem_toString char_mem
  rw [List.all_eq_true] at undigital
  have other := undigital char special
  simp [digital] at other

/-- A number is a plain argument. -/
theorem isPlain_toString (number : Nat) : Argument.IsPlain ⟨false, toString number⟩ := by
  constructor
  · exact toString_unspecial false number
  · intro _ listed
    have filled : (toString number).toList ≠ [] := by simp [Nat.toDigits_ne_nil]
    cases chars : (toString number).toList with
    | nil => exact filled chars
    | cons first rest =>
        have digital : first.isDigit = true := by
          apply isDigit_of_mem_toString
          rw [chars]
          exact List.mem_cons_self
        simp only [chars] at listed
        simp at listed
        rcases listed with rfl | rfl
        · exact absurd digital (by decide)
        · exact absurd digital (by decide)

theorem tilde_not_mem_toString (quoted : Bool) (number : Nat) :
    .letter false '~' ∉ letters quoted (toString number).toList := by
  intro tilde
  rw [letters, List.mem_map] at tilde
  rcases tilde with ⟨char, char_mem, piece_eq⟩
  rw [Piece.letter.injEq] at piece_eq
  have digital := isDigit_of_mem_toString char_mem
  rw [piece_eq.2] at digital
  exact absurd digital (by decide)

end

/-! ## Commands -/

/-- The commands that are read. -/
inductive Command where
  | assign (name : String) (value : Word)
  | run (words : List Word)
  | both (first second : Command)
  | sequence (first second : Command)
  /-- The body is run until the condition succeeds. -/
  | loop (condition body : Command)
  deriving DecidableEq

/-- Whether a word is a keyword, which it is only without quotes. -/
def isKeyword (text : String) (word : Word) : Bool :=
  word = letters false text.toList

/-- The words that cannot be the name of a command. -/
def reservedWords : List String :=
  ["if", "then", "else", "elif", "fi", "do", "done", "case", "esac", "while", "until", "for",
    "in", "!", "\x7b", "\x7d"]

/-- The name before the first equals sign of a word, and the value behind it. -/
def cutAtEquals? : Word → Option (List Char × Word)
  | .letter false char :: rest =>
      if char = '=' then some ([], rest)
      else if isNameChar char then
        (cutAtEquals? rest).map fun (name, value) => (char :: name, value)
      else none
  | _ => none

/-- A simple command: an assignment, or words of which the first is its name. -/
def simple? (words : List Word) : Option Command :=
  match words with
  | [] => none
  | first :: rest =>
      match cutAtEquals? first with
      | some (initial :: name, value) =>
          if initial.isDigit then some (.run words)
          else if rest.isEmpty then some (.assign (.ofList (initial :: name)) value)
          else none
      | _ => if reservedWords.any (isKeyword · first) then none else some (.run words)

/-- The word that a token is. -/
def Token.word? : Token → Option Word
  | .word pieces => some pieces
  | _ => none

/-- Whether a token ends a statement. -/
def Token.isSeparator : Token → Bool
  | .separator => true
  | _ => false

/-- Whether a token joins two commands. -/
def Token.isConjunction : Token → Bool
  | .conjunction => true
  | _ => false

/-- Simple commands joined by conjunctions. -/
def conjunction? (statement : List Token) : Option Command := do
  let commands ← ((statement.splitOnP Token.isConjunction).map (·.filterMap Token.word?)).mapM
    simple?
  match commands with
  | [] => none
  | first :: others => some (others.foldl .both first)

/-- Commands that are run one after the other, as one command. -/
def sequence? : List Command → Option Command
  | [] => none
  | [command] => some command
  | command :: rest => (sequence? rest).map (.sequence command)

/-- A loop that is not closed: the commands before it, and its condition once it is read. -/
structure Level where
  before : List Command
  condition : Option Command

/-- The open loops, and the commands read in the innermost one. -/
structure Reading where
  levels : List Level
  commands : List Command

namespace Reading

/-- One more statement that is not about a loop. -/
def add (reading : Reading) (statement : List Token) : Option Reading :=
  if statement.isEmpty then some reading
  else
    (conjunction? statement).map fun command =>
      { reading with commands := reading.commands ++ [command] }

/-- One more statement of a text. -/
def step (reading : Reading) (statement : List Token) : Option Reading :=
  match statement with
  | [] => some reading
  | .word word :: rest =>
      if isKeyword "until" word then
        add ⟨⟨reading.commands, none⟩ :: reading.levels, []⟩ rest
      else if isKeyword "do" word then
        match reading.levels, sequence? reading.commands with
        | ⟨before, none⟩ :: levels, some condition =>
            add ⟨⟨before, some condition⟩ :: levels, []⟩ rest
        | _, _ => none
      else if isKeyword "done" word then
        match reading.levels, sequence? reading.commands, rest with
        | ⟨before, some condition⟩ :: levels, some body, [] =>
            some ⟨levels, before ++ [.loop condition body]⟩
        | _, _, _ => none
      else reading.add statement
  | _ => none

end Reading

/-- The command that a text says. -/
def parse? (text : String) : Option Command := do
  let tokens ← tokens? text
  let reading ← (tokens.splitOnP Token.isSeparator).foldlM Reading.step ⟨[], []⟩
  if reading.levels.isEmpty then sequence? reading.commands else none

/-- A loop that counts up to three. -/
example : parse? "until [ \"$n\" -ge 3 ]; do\n  n=$((n+1))\ndone\n" =
    some (.loop
      (.run [letters false ['['], [.parameter true "n"], letters false ['-', 'g', 'e'],
        letters false ['3'], letters false [']']])
      (.assign "n" [.sum false [.parameter "n", .number 1]])) := by
  decide +kernel

end Shell

end VolumeMigration
