import VolumeMigration.Strategy.Context

/-!
# Strategies

A strategy is one way to copy a volume. It says whether it applies to a request as things are, and
how it goes about it. A failing check is a failure of the attempt, not an answer.
-/

namespace VolumeMigration

/-- Whether a strategy applies. -/
inductive Applicability where
  | applicable
  | notApplicable (reason : String)
  deriving DecidableEq

/-- A way to copy a volume. -/
structure Strategy where
  name : String
  /-- Whether it applies to the request of an attempt. -/
  applicable : AttemptContext → Plan Applicability
  /-- The whole attempt: create, wait, copy and release. -/
  execute : AttemptContext → Plan Unit

end VolumeMigration
