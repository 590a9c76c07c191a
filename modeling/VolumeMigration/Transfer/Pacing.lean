import VolumeMigration.Time.Duration

/-!
# Bounds and pacing

How long an attempt may take and how often it looks.
-/

namespace VolumeMigration

/-- The bounds and intervals that all attempts of a run share. -/
structure Pacing where
  /-- How long a pod or a service may take until it can be used. -/
  readinessLimit : Duration
  /-- How long the copy may run. -/
  transferLimit : Duration
  /-- The time between two looks at a state. -/
  pollInterval : Duration
  /-- How often the copy is started before it counts as failed. -/
  retries : Nat
  /-- The time between two starts of the copy. -/
  retryDelay : Duration
  /-- Between two looks some time passes, so that a wait comes to an end. -/
  pollInterval_pos : 0 < pollInterval := by decide
  deriving DecidableEq

/-- The pacing that holds unless a request chooses another. -/
def Pacing.standard : Pacing :=
  { readinessLimit := .ofSeconds 300
    transferLimit := .ofSeconds 86400
    pollInterval := .ofSeconds 2
    retries := 10
    retryDelay := .ofSeconds 5 }

end VolumeMigration
