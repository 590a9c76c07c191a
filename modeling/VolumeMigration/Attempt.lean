import VolumeMigration.Json.Value
import VolumeMigration.Time.Duration

/-!
# Attempts

An attempt is what became of one strategy: it succeeded, it did not apply, or it failed. Objects
that could not be deleted afterwards are listed beside the outcome and never change it.
-/

namespace VolumeMigration

/-- The coarse class of a failure. -/
inductive FailureKind where
  | configuration
  | cluster
  | provisioningFailed
  | readinessTimeout
  | transferFailed
  | teardownFailed
  | cancelled
  | internal
  deriving DecidableEq

namespace FailureKind

/-- The kind as it is shown to the user. -/
def text : FailureKind → String
  | .configuration => "ConfigurationError"
  | .cluster => "ClusterError"
  | .provisioningFailed => "ProvisioningFailed"
  | .readinessTimeout => "ReadinessTimeout"
  | .transferFailed => "TransferFailed"
  | .teardownFailed => "TeardownFailed"
  | .cancelled => "Cancelled"
  | .internal => "Internal"

/-- The kind as reports record it, which differs from the shown one in two cases. -/
def recordName : FailureKind → String
  | .configuration => "Configuration"
  | .cluster => "Cluster"
  | kind => kind.text

end FailureKind

/-- How an attempt ended. -/
inductive AttemptOutcome where
  | succeeded
  | notApplicable (reason : String)
  | failed (kind : FailureKind) (message : String)
  deriving DecidableEq

namespace AttemptOutcome

/-- The outcome as reports record it. -/
def toJson : AttemptOutcome → Json
  | .succeeded => .object [("outcome", .string "succeeded")]
  | .notApplicable reason =>
      .object [("outcome", .string "not_applicable"), ("reason", .string reason)]
  | .failed kind message =>
      .object [("outcome", .string "failed"), ("kind", .string kind.recordName),
        ("message", .string message)]

end AttemptOutcome

/-- What became of one strategy. -/
structure AttemptResult where
  strategy : String
  outcome : AttemptOutcome
  elapsed : Duration
  /-- One entry for every object that could not be deleted. -/
  teardownFailures : List String
  deriving DecidableEq

namespace AttemptResult

/-- Whether the attempt migrated the volume. -/
def isSuccess (attempt : AttemptResult) : Bool :=
  attempt.outcome = .succeeded

/-- The attempt in one line: its strategy, how it ended and what it left behind. -/
def text (attempt : AttemptResult) : String :=
  let outcome :=
    match attempt.outcome with
    | .succeeded => ": succeeded"
    | .notApplicable reason => ": not applicable (" ++ reason ++ ")"
    | .failed kind message => ": failed [" ++ kind.text ++ "] " ++ message
  let cleanup :=
    if attempt.teardownFailures = [] then ""
    else " (cleanup: " ++ String.intercalate ", " attempt.teardownFailures ++ ")"
  attempt.strategy ++ outcome ++ cleanup

/-- Some attempts in one line, also if there are none. -/
def listText (attempts : List AttemptResult) : String :=
  if attempts.isEmpty then "no strategy was attempted"
  else String.intercalate "; " (attempts.map text)

/-- The attempt as reports record it. -/
def toJson (attempt : AttemptResult) : Json :=
  .object [("strategy", .string attempt.strategy), ("outcome", attempt.outcome.toJson),
    ("elapsed", .object
      [("secs", Json.natural attempt.elapsed.wholeSeconds),
        ("nanos", Json.natural attempt.elapsed.subsecNanos)]),
    ("teardown_failures", Json.ofTexts attempt.teardownFailures)]

end AttemptResult

end VolumeMigration
