/-!
# Reading options

A command has options, each with a long name and perhaps a letter. `Scan.step` reads one argument:
it is an option, the value that an option waits for, or an operand.

* `--name value`, `--name=value`, `-n value`, `-nvalue` and `-n=value` give a value to an option.
* The letters of switches can be combined, also before that of an option with a value.
* After `--` every argument is an operand. A lone `-` is never an option.
* An argument that looks like an option is never taken as the value of the one before it.

A value that stands in an argument of its own is checked only when the next option or operand is
read, or at the end (`Scan.settle`). An option that displays a notice ends the reading at once, so
it hides all errors behind it and none before it.
-/

namespace VolumeMigration

/-- What the program can display instead of doing its work. -/
inductive Notice where
  | help
  | version
  deriving DecidableEq

/-- What an option does with its values. -/
inductive OptionForm where
  /-- It has no value and can be given once. -/
  | switch
  /-- It has one value and can be given once. -/
  | single (accepts : String → Bool)
  /-- It has one value each time it is given. -/
  | repeatable
  /-- It displays a notice and ends the program. -/
  | display (notice : Notice)

/-- Whether an option is followed by a value. -/
def OptionForm.takesValue : OptionForm → Bool
  | .single _ | .repeatable => true
  | .switch | .display _ => false

/-- An option of a command. -/
structure OptionSpec (ι : Type) where
  id : ι
  long : String
  short : Option Char
  form : OptionForm

/-- Why reading arguments ends early. -/
inductive Stop where
  /-- The arguments are not valid. -/
  | usageError
  /-- A notice is to be displayed. -/
  | display (notice : Notice)
  deriving DecidableEq

/-- The shape of an argument. -/
inductive Word where
  | terminator
  | long (name : List Char) (value : Option (List Char))
  | shorts (letters : List Char)
  | plain (text : String)

/-- The kind of word that an argument is. -/
def Word.ofArgument (argument : String) : Word :=
  match argument.toList with
  | ['-', '-'] => .terminator
  | '-' :: '-' :: rest =>
      match rest.dropWhile (· != '=') with
      | [] => .long rest none
      | _ :: value => .long (rest.takeWhile (· != '=')) (some value)
  | '-' :: letter :: letters => .shorts (letter :: letters)
  | _ => .plain argument

/-- What the arguments read so far gave. -/
structure Scan (ι : Type) where
  /-- The options with their values, in order. -/
  given : List (ι × List String)
  /-- An option whose value stands, or is to stand, in an argument of its own. -/
  pending : Option (OptionSpec ι × Option String)
  /-- Whether a terminator was read. -/
  literal : Bool
  operands : List String

/-- What an argument is: something that belongs to an option, or an operand. -/
inductive Progress (ι : Type) where
  | going (scan : Scan ι)
  | operand (text : String)

namespace Scan

variable {ι : Type} [DecidableEq ι]

/-- The scan before the first argument. -/
def start : Scan ι := { given := [], pending := none, literal := false, operands := [] }

/-- Whether an option was given. -/
def has (scan : Scan ι) (id : ι) : Bool :=
  scan.given.any (·.1 = id)

/-- All values that were given to an option. -/
def values (scan : Scan ι) (id : ι) : List String :=
  (scan.given.filter (·.1 = id)).flatMap (·.2)

/-- The value that was given to an option. -/
def value? (scan : Scan ι) (id : ι) : Option String :=
  (scan.values id).head?

/-- The scan after an option with its values. -/
def give (spec : OptionSpec ι) (values : List String) (scan : Scan ι) : Scan ι :=
  { scan with given := scan.given ++ [(spec.id, values)] }

/-- Takes an option with its values, if it may be given here with these. -/
def accept (spec : OptionSpec ι) (values : List String) (scan : Scan ι) :
    Except Stop (Scan ι) :=
  match spec.form with
  | .display notice => .error (.display notice)
  | .switch => if scan.has spec.id then .error .usageError else .ok (scan.give spec values)
  | .single accepts =>
      if scan.has spec.id || !values.all accepts then .error .usageError
      else .ok (scan.give spec values)
  | .repeatable => .ok (scan.give spec values)

/-- Takes the option whose value stands in an argument of its own. It must have got that value. -/
def settle (scan : Scan ι) : Except Stop (Scan ι) :=
  match scan.pending with
  | none => .ok scan
  | some (_, none) => .error .usageError
  | some (spec, some value) => { scan with pending := none }.accept spec [value]

/-- Takes an option, perhaps with a value in the same argument. -/
def take (spec : OptionSpec ι) (attached : Option (List Char)) (scan : Scan ι) :
    Except Stop (Scan ι) := do
  let settled ← scan.settle
  match spec.form.takesValue, attached with
  | true, some value => settled.accept spec [String.ofList value]
  | true, none => return { settled with pending := some (spec, none) }
  | false, some _ => .error .usageError
  | false, none => settled.accept spec []

/-- The value behind a letter in the same argument. -/
def attachedValue : List Char → Option (List Char)
  | [] => none
  | '=' :: value => some value
  | value => some value

/-- The letters of one argument are options in turn, up to one that takes the rest as its value. -/
def takeLetters (options : List (OptionSpec ι)) : List Char → Scan ι → Except Stop (Scan ι)
  | [], scan => .ok scan
  | letter :: rest, scan =>
      match options.find? (·.short = some letter) with
      | none => .error .usageError
      | some spec =>
          if spec.form.takesValue then scan.take spec (attachedValue rest)
          else do
            let taken ← scan.take spec none
            takeLetters options rest taken

/-- Whether an option waits for its value. -/
def awaitsValue (scan : Scan ι) : Option (OptionSpec ι) :=
  match scan.pending with
  | some (spec, none) => some spec
  | _ => none

/-- One more argument of a command line. -/
def step (options : List (OptionSpec ι)) (scan : Scan ι) (argument : String) :
    Except Stop (Progress ι) :=
  if scan.literal then .ok (.operand argument)
  else
    match Word.ofArgument argument, scan.awaitsValue with
    | .terminator, _ => .ok (.going { scan with literal := true })
    | .long name value, _ =>
        match options.find? (·.long = String.ofList name) with
        | none => .error .usageError
        | some spec => (scan.take spec value).map .going
    | .shorts letters, _ => (takeLetters options letters scan).map .going
    | .plain text, some spec => .ok (.going { scan with pending := some (spec, some text) })
    | .plain text, none => .ok (.operand text)

/-- Takes an operand, if there are fewer than a number of them so far. -/
def takeOperand (limit : Nat) (text : String) (scan : Scan ι) : Except Stop (Scan ι) := do
  let settled ← scan.settle
  if settled.operands.length < limit then
    return { settled with operands := settled.operands ++ [text] }
  else .error .usageError

/-- Reads arguments up to the end, with at most a number of operands. -/
def readAll (options : List (OptionSpec ι)) (limit : Nat) :
    List String → Scan ι → Except Stop (Scan ι)
  | [], scan => scan.settle
  | argument :: rest, scan => do
      match ← scan.step options argument with
      | .going after => readAll options limit rest after
      | .operand text =>
          let after ← scan.takeOperand limit text
          readAll options limit rest after

end Scan

end VolumeMigration
