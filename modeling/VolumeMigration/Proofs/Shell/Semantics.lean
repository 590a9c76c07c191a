import VolumeMigration.Proofs.Shell.Syntax

/-!
# Running a shell script

What a command does is a relation between the machine before it, how it ends and the machine after
it. A machine has variables and a record of what commands did outside of it; the programs that it
starts end with the statuses of a given sequence. `Shell.Executes` is a text that runs to its end
with a status, and there is only one way in which it can (`Shell.Executes.unique`).
-/

namespace VolumeMigration

namespace Shell

/-! ## Words -/

/-- The number that a text writes in decimal, without zeros before it. -/
def number? (text : String) : Option Nat :=
  let value := Nat.ofDigitChars 10 text.toList 0
  if toString value = text then some value else none

@[simp] theorem number?_repr (value : Nat) : number? value.repr = some value := by
  simp [number?]

/-- The number that a summand stands for. -/
def Summand.value? (values : String → String) : Summand → Option Nat
  | .number value => some value
  | .parameter name => number? (values name)

/-- Whether a text is one field that no file name is matched against, also without quotes. -/
def isField (text : List Char) : Bool :=
  !text.isEmpty && text.all fun char => !metacharacters.contains char

/-- What a part of a word stands for. -/
def Piece.text? (values : String → String) : Piece → Option (List Char)
  | .letter quoted char => if !quoted && ['*', '?', '['].contains char then none else some [char]
  | .parameter quoted name =>
      let text := (values name).toList
      if quoted || isField text then some text else none
  | .sum _ summands =>
      (summands.mapM (Summand.value? values)).map fun numbers =>
        (toString (numbers.foldl (· + ·) 0)).toList

theorem text?_letter {quoted : Bool} {char : Char} (plain : char ∉ specials quoted)
    (values : String → String) :
    Piece.text? values (.letter quoted char) = some [char] := by
  cases quoted with
  | true => rfl
  | false =>
      simp [specials, metacharacters] at plain
      simp [Piece.text?, plain]

/-- What the parts of a word stand for together. -/
def text? (values : String → String) : Word → Option (List Char)
  | [] => some []
  | piece :: rest => do
      let text ← piece.text? values
      let others ← text? values rest
      return text ++ others

/-- The one field that a word stands for. -/
def expand? (values : String → String) (word : Word) : Option String :=
  if word = [.letter false '['] then some "[" else (text? values word).map .ofList

section

variable {values : String → String}

/-- A word stands for what its parts stand for, one after the other. -/
theorem text?_append {front back : Word} {text others : List Char}
    (first : text? values front = some text) (second : text? values back = some others) :
    text? values (front ++ back) = some (text ++ others) := by
  induction front generalizing text with
  | nil =>
      rw [text?, Option.some.injEq] at first
      rw [← first]
      exact second
  | cons piece front ih =>
      simp only [text?, Option.bind_eq_bind, Option.bind_eq_some_iff, Option.pure_def,
        Option.some.injEq] at first
      rcases first with ⟨here, here_eq, behind, behind_eq, rfl⟩
      simp [text?, here_eq, ih behind_eq]

theorem text?_letters {quoted : Bool} {chars : List Char}
    (plain : ∀ char ∈ chars, char ∉ specials quoted) :
    text? values (letters quoted chars) = some chars := by
  induction chars with
  | nil => rfl
  | cons char chars ih =>
      rw [List.forall_mem_cons] at plain
      have behind := ih plain.2
      rw [letters] at behind
      simp [letters, text?, text?_letter plain.1, behind]

/-- Characters that are not special stand for themselves. -/
theorem expand?_letters {quoted : Bool} {text : String}
    (plain : ∀ char ∈ text.toList, char ∉ specials quoted) :
    expand? values (letters quoted text.toList) = some text := by
  have unbracketed : letters quoted text.toList ≠ [.letter false '['] := by
    intro same
    rw [letters, List.map_eq_singleton_iff] at same
    rcases same with ⟨char, chars_eq, piece_eq⟩
    rw [Piece.letter.injEq] at piece_eq
    rcases piece_eq with ⟨rfl, rfl⟩
    apply plain '['
    · simp [chars_eq]
    · decide
  rw [expand?, if_neg unbracketed, text?_letters plain]
  simp

/-- A parameter in quotes is one field whatever its value is. -/
theorem expand?_parameter (name : String) :
    expand? values [.parameter true name] = some (values name) := by
  simp [expand?, text?, Piece.text?]

/-- Plain arguments are one field each. -/
theorem expand?_arguments {arguments : List Argument}
    (plain : ∀ argument ∈ arguments, argument.IsPlain) :
    List.Forall₂ (fun word field => expand? values word = some field)
      (arguments.map Argument.word) (arguments.map Argument.text) := by
  simp only [List.forall₂_map_left_iff, List.forall₂_map_right_iff, List.forall₂_same]
  intro argument argument_mem
  exact expand?_letters (plain argument argument_mem).unspecial

/-- Words are read one after the other. -/
theorem mapM_expand? {words : List Word} {fields : List String}
    (read : List.Forall₂ (fun word field => expand? values word = some field) words fields) :
    words.mapM (expand? values) = some fields := by
  induction read with
  | nil => rfl
  | cons first _ ih => simp [first, ih]

end

/-! ## Machines -/

/-- What a command does outside of the shell. -/
inductive Effect where
  | started (words : List String) (status : Nat)
  | echoed (words : List String)
  | slept (seconds : Nat)
  deriving DecidableEq

/-- Whether a program was started. -/
def Effect.isStart : Effect → Bool
  | .started _ _ => true
  | _ => false

/-- The variables of a shell and what it has done so far. -/
structure Machine where
  values : String → String
  effects : List Effect

namespace Machine

/-- The machine after a variable was set. -/
def assign (machine : Machine) (name text : String) : Machine :=
  { machine with
    values := fun other => if other = name then text else machine.values other }

/-- The machine after one more effect. -/
def record (machine : Machine) (effect : Effect) : Machine :=
  { machine with effects := machine.effects ++ [effect] }

/-- How many programs were started. -/
def starts (machine : Machine) : Nat :=
  machine.effects.countP Effect.isStart

variable (machine : Machine) (name text : String) (effect : Effect)

@[simp] theorem values_assign (other : String) :
    (machine.assign name text).values other =
      if other = name then text else machine.values other :=
  rfl

@[simp] theorem effects_assign : (machine.assign name text).effects = machine.effects :=
  rfl

@[simp] theorem values_record : (machine.record effect).values = machine.values :=
  rfl

@[simp] theorem effects_record :
    (machine.record effect).effects = machine.effects ++ [effect] :=
  rfl

@[simp] theorem starts_assign : (machine.assign name text).starts = machine.starts :=
  rfl

@[simp] theorem starts_record :
    (machine.record effect).starts = machine.starts + if effect.isStart then 1 else 0 := by
  simp [starts, List.countP_append, List.countP_singleton]

end Machine

/-- How a command ends: what follows goes on with its status, or the innermost loop is left, or
the script. -/
inductive Ending where
  | finished (status : Nat)
  | broke
  | exited (status : Nat)
  deriving DecidableEq

/-- The names that do not start a program and are not run here, or only in other forms. -/
def otherBuiltins : List String :=
  ["[", "break", "exit", "sleep", ":", ".", "continue", "eval", "exec", "export", "readonly",
    "return", "set", "shift", "times", "trap", "unset", "alias", "bg", "cd", "command", "false",
    "fc", "fg", "getopts", "hash", "jobs", "kill", "newgrp", "printf", "pwd", "read", "test",
    "true", "type", "ulimit", "umask", "unalias", "wait"]

variable (exits : Nat → Nat)

/-- What a command of some words does; `exits` are the statuses of the programs one after the
other. -/
def perform? (words : List String) (machine : Machine) : Option (Ending × Machine) :=
  match words with
  | ["break"] => some (.broke, machine)
  | ["exit", text] => do
      let status ← number? text
      if status < 256 then some (.exited status, machine) else none
  | ["[", left, "-ge", right, "]"] => do
      let left ← number? left
      let right ← number? right
      return (.finished (if right ≤ left then 0 else 1), machine)
  | "echo" :: words => some (.finished 0, machine.record (.echoed words))
  | ["sleep", text] => do
      let seconds ← number? text
      return (.finished 0, machine.record (.slept seconds))
  | name :: _ =>
      if name ∈ otherBuiltins then none
      else
        let status := exits machine.starts
        some (.finished status, machine.record (.started words status))
  | [] => none

/-- A way in which commands run: from a machine to an ending and the machine after it. -/
abbrev Behaviour := Machine → Ending → Machine → Prop

namespace Ending

/-- Whether a command ended by itself, and not by leaving a loop or the shell. -/
def isFinished : Ending → Bool
  | .finished _ => true
  | _ => false

/-- Whether a command ended by itself and well. -/
def isSuccess : Ending → Bool
  | .finished status => status == 0
  | _ => false

/-- Whether a command ended by itself, but not well. -/
def isFailure : Ending → Bool
  | .finished status => status != 0
  | _ => false

/-- How a loop ends that is left so, after a body with the status `last`. -/
def ofLoop (last : Nat) : Ending → Ending
  | .finished _ => .finished last
  | .broke => .finished 0
  | .exited status => .exited status

end Ending

/-- A loop that runs its body until its condition succeeds; `last` is the status of the body that
ran last. -/
inductive Loops (condition body : Behaviour) : Nat → Behaviour where
  | stop {last : Nat} {machine final : Machine} {test : Ending}
      (tested : condition machine test final) (ended : test.isFailure = false) :
      Loops condition body last machine (test.ofLoop last) final
  | leave {last : Nat} {machine between final : Machine} {test ending : Ending}
      (tested : condition machine test between) (failed : test.isFailure = true)
      (ran : body between ending final) (left : ending.isFinished = false) :
      Loops condition body last machine (ending.ofLoop last) final
  | again {last next : Nat} {machine between passed final : Machine} {test ending : Ending}
      (tested : condition machine test between) (failed : test.isFailure = true)
      (ran : body between (.finished next) passed)
      (others : Loops condition body next passed ending final) :
      Loops condition body last machine ending final

/-- One command behind another one, if the first ends as the second requires. -/
inductive Then (goesOn : Ending → Bool) (first second : Behaviour) : Behaviour where
  | both {ending last : Ending} {machine between final : Machine}
      (ran : first machine ending between) (goes : goesOn ending = true)
      (followed : second between last final) :
      Then goesOn first second machine last final
  | only {ending : Ending} {machine final : Machine}
      (ran : first machine ending final) (stops : goesOn ending = false) :
      Then goesOn first second machine ending final

/-- How a command runs. A value is not read as the name of a directory, so it has no tilde. -/
def Command.Runs : Command → Behaviour
  | .assign name value => fun machine ending final =>
      .letter false '~' ∉ value ∧ ∃ text, expand? machine.values value = some text ∧
        ending = .finished 0 ∧ final = machine.assign name text
  | .run words => fun machine ending final =>
      ∃ fields, words.mapM (expand? machine.values) = some fields ∧
        perform? exits fields machine = some (ending, final)
  | .both first second => Then Ending.isSuccess first.Runs second.Runs
  | .sequence first second => Then Ending.isFinished first.Runs second.Runs
  | .loop condition body => Loops condition.Runs body.Runs 0

section

variable {machine : Machine}

/-- A variable is set to what a word stands for. -/
theorem runs_assign {name text : String} {value : Word} (untilded : .letter false '~' ∉ value)
    (read : expand? machine.values value = some text) :
    (Command.assign name value).Runs exits machine (.finished 0) (machine.assign name text) :=
  ⟨untilded, text, read, rfl, rfl⟩

/-- A program is started with the fields that its words stand for. -/
theorem runs_run {words : List Word} {fields : List String} {ending : Ending} {final : Machine}
    (read : List.Forall₂ (fun word field => expand? machine.values word = some field) words
      fields)
    (performed : perform? exits fields machine = some (ending, final)) :
    (Command.run words).Runs exits machine ending final :=
  ⟨fields, mapM_expand? read, performed⟩

end

/-- A text runs to its end with a status. -/
def Executes (text : String) (machine : Machine) (status : Nat) (final : Machine) : Prop :=
  ∃ command ending, parse? text = some command ∧ command.Runs exits machine ending final ∧
    (ending = .finished status ∨ ending = .exited status)

/-! ## There is one way to run -/

/-- From a machine there is at most one ending and one machine after it. -/
def Deterministic (behaviour : Behaviour) : Prop :=
  ∀ machine ending final other after, behaviour machine ending final →
    behaviour machine other after → ending = other ∧ final = after

section

variable {condition body first second : Behaviour}

/-- Two commands that follow each other end in one way, if each of them does. -/
theorem Then.deterministic (goesOn : Ending → Bool) (first_det : Deterministic first)
    (second_det : Deterministic second) : Deterministic (Then goesOn first second) := by
  intro machine ending final other after left right
  cases left with
  | both ran goes followed =>
      cases right with
      | both ran' goes' followed' =>
          rcases first_det _ _ _ _ _ ran ran' with ⟨_, rfl⟩
          exact second_det _ _ _ _ _ followed followed'
      | only ran' stops' =>
          rcases first_det _ _ _ _ _ ran ran' with ⟨rfl, _⟩
          simp [goes] at stops'
  | only ran stops =>
      cases right with
      | both ran' goes' followed' =>
          rcases first_det _ _ _ _ _ ran ran' with ⟨rfl, _⟩
          simp [stops] at goes'
      | only ran' stops' => exact first_det _ _ _ _ _ ran ran'

/-- A loop ends in one way, if its condition and its body do. -/
theorem Loops.deterministic (condition_det : Deterministic condition)
    (body_det : Deterministic body) (last : Nat) : Deterministic (Loops condition body last) := by
  intro machine ending final other after left right
  induction left with
  | stop tested ended =>
      cases right with
      | stop tested' ended' =>
          rcases condition_det _ _ _ _ _ tested tested' with ⟨rfl, rfl⟩
          exact ⟨rfl, rfl⟩
      | leave tested' failed' ran' left' =>
          rcases condition_det _ _ _ _ _ tested tested' with ⟨rfl, _⟩
          simp [ended] at failed'
      | again tested' failed' ran' others' =>
          rcases condition_det _ _ _ _ _ tested tested' with ⟨rfl, _⟩
          simp [ended] at failed'
  | leave tested failed ran left =>
      cases right with
      | stop tested' ended' =>
          rcases condition_det _ _ _ _ _ tested tested' with ⟨rfl, _⟩
          simp [failed] at ended'
      | leave tested' failed' ran' left' =>
          rcases condition_det _ _ _ _ _ tested tested' with ⟨_, rfl⟩
          rcases body_det _ _ _ _ _ ran ran' with ⟨rfl, rfl⟩
          exact ⟨rfl, rfl⟩
      | again tested' failed' ran' others' =>
          rcases condition_det _ _ _ _ _ tested tested' with ⟨_, rfl⟩
          rcases body_det _ _ _ _ _ ran ran' with ⟨rfl, _⟩
          simp [Ending.isFinished] at left
  | again tested failed ran others ih =>
      cases right with
      | stop tested' ended' =>
          rcases condition_det _ _ _ _ _ tested tested' with ⟨rfl, _⟩
          simp [failed] at ended'
      | leave tested' failed' ran' left' =>
          rcases condition_det _ _ _ _ _ tested tested' with ⟨_, rfl⟩
          rcases body_det _ _ _ _ _ ran ran' with ⟨rfl, _⟩
          simp [Ending.isFinished] at left'
      | again tested' failed' ran' others' =>
          rcases condition_det _ _ _ _ _ tested tested' with ⟨_, rfl⟩
          rcases body_det _ _ _ _ _ ran ran' with ⟨next_eq, rfl⟩
          cases next_eq
          exact ih others'

end

/-- Every command ends in at most one way. -/
theorem Command.Runs.deterministic (command : Command) : Deterministic (command.Runs exits) := by
  induction command with
  | assign name value =>
      intro machine ending final other after left right
      rcases left with ⟨_, text, text_eq, rfl, rfl⟩
      rcases right with ⟨_, text', text_eq', rfl, rfl⟩
      rw [text_eq, Option.some.injEq] at text_eq'
      exact ⟨rfl, by rw [text_eq']⟩
  | run words =>
      intro machine ending final other after left right
      rcases left with ⟨fields, fields_eq, performed⟩
      rcases right with ⟨fields', fields_eq', performed'⟩
      rw [fields_eq, Option.some.injEq] at fields_eq'
      rw [← fields_eq', performed, Option.some.injEq, Prod.mk.injEq] at performed'
      exact performed'
  | both first second first_ih second_ih => exact Then.deterministic _ first_ih second_ih
  | sequence first second first_ih second_ih => exact Then.deterministic _ first_ih second_ih
  | loop condition body condition_ih body_ih => exact Loops.deterministic condition_ih body_ih 0

/-- A text runs to its end in at most one way. -/
theorem Executes.unique {text : String} {machine final after : Machine} {status code : Nat}
    (one : Executes exits text machine status final)
    (other : Executes exits text machine code after) : status = code ∧ final = after := by
  rcases one with ⟨command, ending, parsed, ran, ended⟩
  rcases other with ⟨command', ending', parsed', ran', ended'⟩
  rw [parsed, Option.some.injEq] at parsed'
  subst parsed'
  rcases Command.Runs.deterministic exits command _ _ _ _ _ ran ran' with ⟨same, same_final⟩
  subst same
  refine ⟨?_, same_final⟩
  rcases ended with rfl | rfl
  · simpa using ended'
  · simpa using ended'

end Shell

end VolumeMigration
