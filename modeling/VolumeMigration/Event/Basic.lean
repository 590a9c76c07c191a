import VolumeMigration.Json.Value
import VolumeMigration.Time.Instant

/-!
# Migration events

A migration tells of its progress by events, one for every change of phase.
-/

namespace VolumeMigration

/-- A change of phase in a migration. -/
inductive MigrationEvent where
  /-- The candidates are known. -/
  | candidatesResolved (time : Instant) (strategies : List String)
  /-- A strategy is about to be evaluated. -/
  | evaluationStarted (time : Instant) (strategy : String) (position : Nat)
  /-- A strategy was found to apply or not. -/
  | applicabilityDetermined (time : Instant) (strategy : String) (applicable : Bool)
      (reason : Option String)
  /-- A strategy started to execute. -/
  | executionStarted (time : Instant) (strategy attemptId : String)
  /-- A strategy finished executing. -/
  | executionFinished (time : Instant) (strategy attemptId : String) (succeeded : Bool)
      (error : Option String) (teardownFailures : List String) (durationMillis : Nat)
  deriving DecidableEq

namespace MigrationEvent

/-- The type of an event, by which a log can be searched. -/
def typeName : MigrationEvent → String
  | .candidatesResolved .. => "CandidatesResolved"
  | .evaluationStarted .. => "EvaluationStarted"
  | .applicabilityDetermined .. => "ApplicabilityDetermined"
  | .executionStarted .. => "ExecutionStarted"
  | .executionFinished .. => "ExecutionFinished"

/-- The strategy that an event is about. -/
def strategy? : MigrationEvent → Option String
  | .candidatesResolved .. => none
  | .evaluationStarted _ strategy _ => some strategy
  | .applicabilityDetermined _ strategy _ _ => some strategy
  | .executionStarted _ strategy _ => some strategy
  | .executionFinished _ strategy _ _ _ _ _ => some strategy

/-- The time at which an event happened. -/
def time : MigrationEvent → Instant
  | .candidatesResolved time _ => time
  | .evaluationStarted time _ _ => time
  | .applicabilityDetermined time _ _ _ => time
  | .executionStarted time _ _ => time
  | .executionFinished time _ _ _ _ _ _ => time

/-- The event in one line. -/
def summary : MigrationEvent → String
  | .candidatesResolved _ strategies =>
      "Trying strategies in order: " ++ String.intercalate ", " strategies
  | .evaluationStarted _ strategy position =>
      "Evaluating " ++ strategy ++ " (candidate #" ++ toString (position + 1) ++ ")"
  | .applicabilityDetermined _ strategy true _ => strategy ++ " is applicable"
  | .applicabilityDetermined _ strategy false reason =>
      strategy ++ " is not applicable: " ++ reason.getD "no reason given"
  | .executionStarted _ strategy attemptId =>
      "Running " ++ strategy ++ " (attempt " ++ attemptId ++ ")"
  | .executionFinished _ strategy _ true _ _ millis =>
      strategy ++ " finished in " ++ toString millis ++ " ms"
  | .executionFinished _ strategy _ false error _ millis =>
      strategy ++ " failed after " ++ toString millis ++ " ms: " ++ error.getD "unknown error"

/-- The members of the record of an event besides its type and time. -/
def details : MigrationEvent → List (String × Json)
  | .candidatesResolved _ strategies => [("strategies", Json.ofTexts strategies)]
  | .evaluationStarted _ strategy position =>
      [("strategy", .string strategy), ("position", Json.natural position)]
  | .applicabilityDetermined _ strategy applicable reason =>
      [("strategy", .string strategy), ("applicable", .bool applicable),
        ("reason", Json.ofText? reason)]
  | .executionStarted _ strategy attemptId =>
      [("strategy", .string strategy), ("attempt_id", .string attemptId)]
  | .executionFinished _ strategy attemptId succeeded error teardownFailures millis =>
      [("strategy", .string strategy), ("attempt_id", .string attemptId),
        ("succeeded", .bool succeeded), ("error", Json.ofText? error),
        ("teardown_failures", Json.ofTexts teardownFailures),
        ("duration_ms", Json.natural millis)]

/-- An event as a record that names its type. -/
def toJson (event : MigrationEvent) : Json :=
  .object ([("type", .string event.typeName)] ++ event.details ++
    [("timestamp", .string event.time.text)])

end MigrationEvent

end VolumeMigration
