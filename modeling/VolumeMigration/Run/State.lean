import VolumeMigration.Time.Duration

/-!
# States of a run

A run walks through the candidates of a request. Its states refer to a candidate by its position;
four of them end the run.
-/

namespace VolumeMigration

/-- The state of a run. -/
inductive RunState where
  | pending
  | evaluating (position : Nat)
  | applicable (position : Nat)
  | notApplicable (position : Nat)
  | executing (position : Nat)
  | failed (position : Nat)
  | succeeded
  | exhaustedFailed
  | cancelled
  | configurationError
  deriving DecidableEq

namespace RunState

/-- Whether a state ends the run. -/
def isTerminal : RunState → Bool
  | .succeeded | .exhaustedFailed | .cancelled | .configurationError => true
  | _ => false

/-- The name of a state. -/
def name : RunState → String
  | .pending => "Pending"
  | .evaluating _ => "Evaluating"
  | .applicable _ => "Applicable"
  | .notApplicable _ => "NotApplicable"
  | .executing _ => "Executing"
  | .failed _ => "Failed"
  | .succeeded => "Succeeded"
  | .exhaustedFailed => "ExhaustedFailed"
  | .cancelled => "Cancelled"
  | .configurationError => "ConfigurationError"

/-- The position of the candidate that a state is about. -/
def position? : RunState → Option Nat
  | .evaluating position | .applicable position | .notApplicable position
  | .executing position | .failed position => some position
  | _ => none

/-- A state with the position of its candidate. -/
def text (state : RunState) : String :=
  match state.position? with
  | none => state.name
  | some position => state.name ++ "(" ++ toString position ++ ")"

end RunState

/-- A change of state with the time since the beginning of the run. -/
structure RunStep where
  state : RunState
  message : String
  time : Duration
  deriving DecidableEq

end VolumeMigration
