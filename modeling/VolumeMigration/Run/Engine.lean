import VolumeMigration.Strategy.Registry

/-!
# Running a request

An engine tries the candidates of a request one after the other until one succeeds. Before each
candidate, and after one that did not succeed, it looks at the token: once that is cancelled no
other candidate is tried. Every attempt releases what it created before the next one starts.

Three records tell of a run: the attempts in its result, the events that the publisher receives,
and the steps from state to state. Events and steps are part of the history of the world; a
publisher that fails changes neither.
-/

namespace VolumeMigration

/-- What a successful migration reports. -/
structure MigrationReport where
  /-- The strategy that succeeded. -/
  strategy : String
  /-- The attempts in order; the last one succeeded. -/
  attempts : List AttemptResult
  /-- How long the run took. -/
  elapsed : Duration
  deriving DecidableEq

/-- What all runs of an engine share. -/
structure Engine where
  registry : StrategyRegistry
  pacing : Pacing
  publisher : Publisher
  /-- What is drawn for the attempt at each position. -/
  draws : Nat → AttemptDraw
  /-- The time at which the clock of the world starts. -/
  startedAt : Instant

namespace Engine

variable {σ : Type}

/-- A computation that changes the world. -/
abbrev Session (σ : Type) := StateM (World σ)

/-- Writes a line to the log. -/
def log (level : LogLevel) (message : String) : Session σ Unit :=
  modify fun world => world.log ⟨level, message⟩

/-- Changes the state of the run. -/
def transition (state : RunState) (message : String) : Session σ Unit := do
  log .debug message
  modify fun world => world.record (.stepped ⟨state, message, world.clock⟩)

/-- The world after an event went to the publisher. -/
def afterEvent (publisher : Publisher) (event : MigrationEvent) (world : World σ) : World σ :=
  let delivery := publisher world.events.length event
  let emitted := world.record (.emitted event delivery.failure.isNone)
  let logged := delivery.records.foldl World.log emitted
  match delivery.failure with
  | none => logged
  | some failure => logged.log ⟨.warn, "Failed to publish event: " ++ failure.message⟩

/-- Hands an event to the publisher. -/
def emit (engine : Engine) (event : Instant → MigrationEvent) : Session σ Unit :=
  modify fun world =>
    afterEvent engine.publisher (event (engine.startedAt.after world.clock)) world

/-- Runs a plan. -/
def follow {α : Type} (environment : Environment σ) (plan : Plan α) :
    Session σ (Except Failure α) :=
  plan.run environment

/-- Takes the resources that were noted as left over. -/
def takeLeftovers : Session σ (List String) :=
  modifyGet fun world => (world.leftovers, { world with leftovers := [] })

/-- What the attempt at a position works with. -/
def context (engine : Engine) (request : Request) (clusters : ClusterSet ClusterHandle)
    (position : Nat) : AttemptContext :=
  { request, clusters, pacing := engine.pacing, draw := engine.draws position }

/-- The result of an attempt that ended with an outcome. -/
def conclude (strategy : Strategy) (started : Duration) (outcome : AttemptOutcome)
    (leftovers : List String) : Session σ AttemptResult := do
  let world ← get
  return {
    strategy := strategy.name
    outcome
    elapsed := world.clock - started
    teardownFailures := leftovers }

/-- Ends an attempt whose strategy does not apply. -/
def declined (engine : Engine) (strategy : Strategy) (position : Nat) (started : Duration)
    (reason : String) : Session σ AttemptResult := do
  log .info ("Strategy " ++ strategy.name ++ " is not applicable: " ++ reason)
  transition (.notApplicable position) reason
  engine.emit (.applicabilityDetermined · strategy.name false (some reason))
  conclude strategy started (.notApplicable reason) []

/-- Ends an attempt whose strategy could not tell whether it applies. -/
def undetermined (engine : Engine) (strategy : Strategy) (position : Nat) (started : Duration)
    (failure : Failure) : Session σ AttemptResult := do
  log .warn ("Applicability check for " ++ strategy.name ++ " failed: " ++ failure.message)
  transition (.failed position) failure.message
  engine.emit (.applicabilityDetermined · strategy.name false (some failure.message))
  conclude strategy started (.failed failure.kind failure.message) []

/-- Ends an attempt whose strategy was executed. -/
def executed (engine : Engine) (strategy : Strategy) (position : Nat) (started : Duration)
    (attemptId : String) (outcome : Except Failure Unit) : Session σ AttemptResult := do
  let leftovers ← takeLeftovers
  for leftover in leftovers do
    log .warn ("Cleanup after " ++ strategy.name ++ " incomplete: " ++ leftover)
  let world ← get
  let millis := Duration.wholeMillis (world.clock - started)
  match outcome with
  | .ok () =>
      engine.emit (.executionFinished · strategy.name attemptId true none leftovers millis)
      conclude strategy started .succeeded leftovers
  | .error failure =>
      engine.emit
        (.executionFinished · strategy.name attemptId false (some failure.message) leftovers
          millis)
      log .warn ("Strategy " ++ strategy.name ++ " failed: " ++ failure.message)
      transition (.failed position) failure.message
      conclude strategy started (.failed failure.kind failure.message) leftovers

/-- Executes a strategy that applies. -/
def execute (engine : Engine) (environment : Environment σ) (strategy : Strategy)
    (position : Nat) (started : Duration) (context : AttemptContext) :
    Session σ AttemptResult := do
  transition (.applicable position) (strategy.name ++ " is applicable")
  engine.emit (.applicabilityDetermined · strategy.name true none)
  transition (.executing position)
    ("Executing " ++ strategy.name ++ " (attempt " ++ context.attemptId ++ ")")
  engine.emit (.executionStarted · strategy.name context.attemptId)
  let outcome ← follow environment (strategy.execute context)
  engine.executed strategy position started context.attemptId outcome

/-- Evaluates a candidate and executes it if it applies. -/
def attempt (engine : Engine) (environment : Environment σ) (strategy : Strategy)
    (position : Nat) (context : AttemptContext) : Session σ AttemptResult := do
  let world ← get
  let started := world.clock
  transition (.evaluating position) ("Evaluating " ++ strategy.name)
  engine.emit (.evaluationStarted · strategy.name position)
  let _ ← takeLeftovers
  match ← follow environment (strategy.applicable context) with
  | .ok .applicable => engine.execute environment strategy position started context
  | .ok (.notApplicable reason) => engine.declined strategy position started reason
  | .error failure => engine.undetermined strategy position started failure

/-- Ends a run whose token is cancelled. -/
def stop (message : String) (attempts : List AttemptResult) :
    Session σ (Except Failure MigrationReport) := do
  transition .cancelled message
  return .error (.migrationCancelled attempts)

/-- Ends a run in which a strategy succeeded. -/
def complete (strategy : Strategy) (attempts : List AttemptResult) :
    Session σ (Except Failure MigrationReport) := do
  transition .succeeded "Migration completed"
  let world ← get
  log .info
    ("Migration completed with " ++ strategy.name ++ " in " ++ Duration.text world.clock)
  return .ok { strategy := strategy.name, attempts, elapsed := world.clock }

/-- Whether an attempt failed because it was interrupted. -/
def wasCancelled (attempt : AttemptResult) : Bool :=
  match attempt.outcome with
  | .failed .cancelled _ => true
  | _ => false

/-- Tries candidates one after the other, after the attempts made so far. -/
def tryCandidates (engine : Engine) (environment : Environment σ) (request : Request)
    (clusters : ClusterSet ClusterHandle) :
    List Strategy → List AttemptResult → Session σ (Except Failure MigrationReport)
  | [], attempts => do
      transition .exhaustedFailed "No strategy succeeded"
      return .error (.exhausted attempts)
  | strategy :: rest, attempts => do
      let before ← get
      if before.cancelled then
        stop "Cancelled before next candidate" attempts
      else
        let position := attempts.length
        let result ← engine.attempt environment strategy position
          (engine.context request clusters position)
        let made := attempts ++ [result]
        let after ← get
        if result.isSuccess then complete strategy made
        else if wasCancelled result || after.cancelled then
          stop "Cancelled during attempt" made
        else engine.tryCandidates environment request clusters rest made

/-- Migrates as a request asks: tries its candidates until one succeeds. -/
def run (engine : Engine) (environment : Environment σ) (request : Request)
    (clusters : ClusterSet ClusterHandle) : Session σ (Except Failure MigrationReport) := do
  match engine.registry.resolve request.strategies with
  | .error fault =>
      let failure := Failure.configuration fault
      transition .configurationError failure.message
      return .error failure
  | .ok candidates =>
      let names := candidates.map Strategy.name
      log .info ("Candidate strategies: " ++ String.intercalate ", " names)
      engine.emit (.candidatesResolved · names)
      engine.tryCandidates environment request clusters candidates []

end Engine

end VolumeMigration
