import VolumeMigration.Plan
import VolumeMigration.Run.State

/-!
# The world that a plan runs in

An environment says how the clusters answer. It may answer the same call differently each time,
may fail any call, and may cancel the token while it answers or at a given time. A world is the
state of the clusters together with the clock, the token, the resources noted as left over, and the
history of all that happened. Calls take no time; only pauses move the clock.

`Plan.run` runs a plan in a world.
-/

namespace VolumeMigration

/-- What happened at one point of a run. -/
inductive Occurrence where
  /-- A cluster was asked and answered. -/
  | exchange (cluster : ClusterHandle) (call : Call) (result : Except Failure call.Answer)
  /-- The token was cancelled. -/
  | cancellation
  | logged (record : LogRecord)
  /-- An event was handed to the publisher. -/
  | emitted (event : MigrationEvent) (delivered : Bool)
  /-- The run changed its state. -/
  | stepped (step : RunStep)

/-- The reply of the clusters to a call. -/
structure Response (call : Call) where
  result : Except Failure call.Answer
  /-- Whether the token is cancelled while the call is answered. -/
  cancels : Bool

/-- How clusters with states of type `σ` behave. -/
structure Environment (σ : Type) where
  /-- The reply to a call at a time. -/
  respond : ClusterHandle → (call : Call) → Duration → σ → Response call × σ
  /-- The time at which the token is cancelled from outside. -/
  cancelTime : Option Duration

/-- The state of everything that a plan can observe or change. -/
structure World (σ : Type) where
  clusters : σ
  /-- The time since the beginning. -/
  clock : Duration
  /-- Whether the token is cancelled. -/
  cancelled : Bool
  /-- The resources noted as left over since they were last taken. -/
  leftovers : List String
  history : Array Occurrence

namespace World

variable {σ : Type}

/-- The world in which nothing has happened yet. -/
def start (clusters : σ) : World σ :=
  { clusters, clock := 0, cancelled := false, leftovers := [], history := #[] }

/-- A world with one more occurrence. -/
def record (world : World σ) (occurrence : Occurrence) : World σ :=
  { world with history := world.history.push occurrence }

/-- A world with one more line in its log. -/
def log (world : World σ) (entry : LogRecord) : World σ :=
  world.record (.logged entry)

/-- A world whose token is cancelled. Once it is, nothing more happens to it. -/
def cancel (world : World σ) : World σ :=
  if world.cancelled then world else { world.record .cancellation with cancelled := true }

/-- A world in which a pause has ended, and whether its whole length has passed. -/
def pause (environment : Environment σ) (length : Duration) (world : World σ) :
    Bool × World σ :=
  let target := world.clock + length
  if world.cancelled then (false, world)
  else
    match environment.cancelTime with
    | none => (true, { world with clock := target })
    | some time =>
        if time ≤ target then (false, cancel { world with clock := max world.clock time })
        else (true, { world with clock := target })

/-- A world in which a cluster was asked, and its reply. -/
def ask (environment : Environment σ) (cluster : ClusterHandle) (call : Call)
    (world : World σ) : Except Failure call.Answer × World σ :=
  let (response, clusters) := environment.respond cluster call world.clock world.clusters
  let asked := { world with clusters }.record (.exchange cluster call response.result)
  (response.result, if response.cancels then asked.cancel else asked)

/-- The reply to one step of a plan, and the world after it. -/
def perform (environment : Environment σ) (world : World σ) :
    (action : Action) → action.Reply × World σ
  | .ask cluster call => world.ask environment cluster call
  | .lookAtToken => (world.cancelled, world)
  | .cancelToken => ((), world.cancel)
  | .pause length => world.pause environment length
  | .log entry => ((), world.log entry)
  | .noteLeftover failure => ((), { world with leftovers := world.leftovers ++ [failure] })

/-! ## Views of the history -/

/-- The lines of the log. -/
def logRecords (world : World σ) : List LogRecord :=
  world.history.toList.filterMap fun occurrence =>
    match occurrence with
    | .logged entry => some entry
    | _ => none

/-- The warnings in the log. -/
def warnings (world : World σ) : List String :=
  (world.logRecords.filter (·.level = .warn)).map LogRecord.message

/-- The events, with whether the publisher took them. -/
def emissions (world : World σ) : List (MigrationEvent × Bool) :=
  world.history.toList.filterMap fun occurrence =>
    match occurrence with
    | .emitted event delivered => some (event, delivered)
    | _ => none

/-- The events. -/
def events (world : World σ) : List MigrationEvent :=
  world.emissions.map (·.1)

/-- The changes of state. -/
def steps (world : World σ) : List RunStep :=
  world.history.toList.filterMap fun occurrence =>
    match occurrence with
    | .stepped step => some step
    | _ => none

end World

/-- Runs a plan in a world. -/
def Plan.run {σ α : Type} (environment : Environment σ) :
    Plan α → World σ → Except Failure α × World σ
  | .done value, world => (.ok value, world)
  | .fail failure, world => (.error failure, world)
  | .step action next, world =>
      let (reply, after) := world.perform environment action
      (next reply).run environment after

namespace Plan

variable {σ α β : Type} (environment : Environment σ)

/-- A continued plan runs its first part and, if that ends with a value, goes on from there. -/
theorem run_bind (plan : Plan α) (next : α → Plan β) (world : World σ) :
    (plan.bind next).run environment world =
      match plan.run environment world with
      | (.ok value, after) => (next value).run environment after
      | (.error failure, after) => (.error failure, after) := by
  induction plan generalizing world with
  | done value => rfl
  | fail failure => rfl
  | step action rest ih => exact ih _ _

/-- An attempted plan never fails, and leaves the same world. -/
theorem run_attempt (plan : Plan α) (world : World σ) :
    plan.attempt.run environment world =
      (.ok (plan.run environment world).1, (plan.run environment world).2) := by
  induction plan generalizing world with
  | done value => rfl
  | fail failure => rfl
  | step action rest ih => exact ih _ _

end Plan

end VolumeMigration
