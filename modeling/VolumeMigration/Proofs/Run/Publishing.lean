import VolumeMigration.Proofs.Run.Relating

/-!
# The publisher has no say

Worlds agree (`World.Agrees`) if they differ at most in the lines of the log and in whether the
publisher took the events. Plans cannot tell such worlds apart, and neither can an engine whose
publisher is replaced by another: `Engine.alike_run` relates the two runs step by step.
-/

namespace VolumeMigration

/-- An occurrence without what depends on the publisher: a line of the log may come from it, and
an event counts as taken. -/
def Occurrence.bare? : Occurrence → Option Occurrence
  | .logged _ => none
  | .emitted event _ => some (.emitted event true)
  | occurrence => some occurrence

namespace World

variable {σ : Type}

/-- The history of a world without what depends on the publisher. -/
def bareHistory (world : World σ) : List Occurrence :=
  world.history.toList.filterMap Occurrence.bare?

/-- Two worlds differ at most in the log and in whether the publisher took the events. -/
structure Agrees (left right : World σ) : Prop where
  clusters : left.clusters = right.clusters
  clock : left.clock = right.clock
  cancelled : left.cancelled = right.cancelled
  leftovers : left.leftovers = right.leftovers
  history : left.bareHistory = right.bareHistory

theorem Agrees.refl (world : World σ) : world.Agrees world :=
  ⟨rfl, rfl, rfl, rfl, rfl⟩

theorem Agrees.symm {left right : World σ} (agrees : left.Agrees right) : right.Agrees left :=
  ⟨agrees.clusters.symm, agrees.clock.symm, agrees.cancelled.symm, agrees.leftovers.symm,
    agrees.history.symm⟩

theorem Agrees.trans {left middle right : World σ} (first : left.Agrees middle)
    (second : middle.Agrees right) : left.Agrees right :=
  ⟨first.clusters.trans second.clusters, first.clock.trans second.clock,
    first.cancelled.trans second.cancelled, first.leftovers.trans second.leftovers,
    first.history.trans second.history⟩

/-- Worlds that agree only differ in their histories. -/
theorem Agrees.exists_history {left right : World σ} (agrees : left.Agrees right) :
    ∃ history, right = { left with history } := by
  rcases right with ⟨clusters, clock, cancelled, leftovers, history⟩
  refine ⟨history, ?_⟩
  rw [agrees.clusters, agrees.clock, agrees.cancelled, agrees.leftovers]

/-- Whatever is read off the history without regard to the publisher is the same. -/
theorem Agrees.filterMap {α : Type} {left right : World σ} (agrees : left.Agrees right)
    {view : Occurrence → Option α}
    (bare : ∀ occurrence, view occurrence = occurrence.bare?.bind view) :
    left.history.toList.filterMap view = right.history.toList.filterMap view := by
  have through (world : World σ) :
      world.history.toList.filterMap view = world.bareHistory.filterMap view := by
    rw [bareHistory, List.filterMap_filterMap]
    exact congrArg (List.filterMap · world.history.toList) (funext bare)
  rw [through, through, agrees.history]

theorem events_eq (world : World σ) :
    world.events = world.history.toList.filterMap Occurrence.event? := by
  rw [events, emissions, List.map_filterMap]
  refine congrArg (List.filterMap · world.history.toList) (funext fun occurrence => ?_)
  cases occurrence <;> rfl

theorem steps_eq (world : World σ) :
    world.steps = world.history.toList.filterMap Occurrence.step? := by
  refine congrArg (List.filterMap · world.history.toList) (funext fun occurrence => ?_)
  cases occurrence <;> rfl

/-- Worlds that agree have the same events. -/
theorem Agrees.events {left right : World σ} (agrees : left.Agrees right) :
    left.events = right.events := by
  rw [events_eq, events_eq]
  apply agrees.filterMap
  intro occurrence
  cases occurrence <;> rfl

theorem Agrees.steps {left right : World σ} (agrees : left.Agrees right) :
    left.steps = right.steps := by
  rw [steps_eq, steps_eq]
  apply agrees.filterMap
  intro occurrence
  cases occurrence <;> rfl

@[simp]
theorem bareHistory_record (world : World σ) (occurrence : Occurrence) :
    (world.record occurrence).bareHistory = world.bareHistory ++ occurrence.bare?.toList := by
  cases told : occurrence.bare? <;> simp [bareHistory, record, told]

theorem Agrees.record {left right : World σ} (agrees : left.Agrees right)
    {occurrence other : Occurrence} (same : occurrence.bare? = other.bare?) :
    (left.record occurrence).Agrees (right.record other) := by
  refine ⟨agrees.clusters, agrees.clock, agrees.cancelled, agrees.leftovers, ?_⟩
  rw [bareHistory_record, bareHistory_record, agrees.history, same]

theorem agrees_log (world : World σ) (entry : LogRecord) : (world.log entry).Agrees world := by
  refine ⟨rfl, rfl, rfl, rfl, ?_⟩
  rw [log, bareHistory_record]
  exact List.append_nil _

theorem agrees_logAll (world : World σ) (entries : List LogRecord) :
    (entries.foldl World.log world).Agrees world := by
  induction entries generalizing world with
  | nil => exact .refl world
  | cons entry rest ih => exact (ih (world.log entry)).trans (world.agrees_log entry)

theorem Agrees.concordant : Concordant (Agrees : World σ → World σ → Prop) where
  clock := Agrees.clock
  cancelled := Agrees.cancelled
  leftovers := Agrees.leftovers
  wait agrees _ := ⟨agrees.clusters, rfl, agrees.cancelled, agrees.leftovers, agrees.history⟩
  interrupt agrees _ := ⟨agrees.clusters, agrees.clock, rfl, agrees.leftovers, agrees.history⟩
  note agrees _ := ⟨agrees.clusters, agrees.clock, agrees.cancelled, rfl, agrees.history⟩
  record agrees _ := agrees.record rfl

/-- Worlds that agree get the same answers. -/
theorem Agrees.ask {left right : World σ} (agrees : left.Agrees right)
    (environment : Environment σ) (cluster : ClusterHandle) (call : Call) :
    (left.ask environment cluster call).1 = (right.ask environment cluster call).1 ∧
      (left.ask environment cluster call).2.Agrees (right.ask environment cluster call).2 := by
  -- an environment sees the clusters and the clock, never the history
  rcases agrees.exists_history with ⟨history, rfl⟩
  let response := environment.respond cluster call left.clock left.clusters
  have moved : World.Agrees { left with clusters := response.2 }
      { left with clusters := response.2, history } :=
    ⟨rfl, rfl, rfl, rfl, agrees.history⟩
  have answered := moved.record (Eq.refl (Occurrence.exchange cluster call response.1.result).bare?)
  refine ⟨rfl, ?_⟩
  unfold World.ask
  dsimp only
  split
  · exact Agrees.concordant.cancel answered
  · exact answered

theorem Agrees.hidden (environment : Environment σ) : Hidden environment Agrees where
  toConcordant := Agrees.concordant
  ask agrees cluster call := agrees.ask environment cluster call

end World

namespace Engine

variable {σ : Type}

/-- Whatever the publisher does with an event, the event is all that remains of it. -/
theorem agrees_afterEvent (publisher : Publisher) (event : MigrationEvent) (world : World σ) :
    (afterEvent publisher event world).Agrees (world.record (.emitted event true)) := by
  let delivery := publisher world.events.length event
  let emitted := world.record (.emitted event delivery.failure.isNone)
  have taken : emitted.Agrees (world.record (.emitted event true)) :=
    (World.Agrees.refl world).record rfl
  have told := (emitted.agrees_logAll delivery.records).trans taken
  unfold afterEvent
  dsimp only
  split
  · exact told
  · exact (World.agrees_log _ _).trans told

/-- An engine whose publisher is replaced by another. -/
def withPublisher (engine : Engine) (publisher : Publisher) : Engine :=
  { engine with publisher }

section Publishers

variable (engine : Engine) (publisher : Publisher)

/-- Whether the publisher takes an event makes no difference. -/
theorem alike_emit (event : Instant → MigrationEvent) :
    Relates World.Agrees Eq ((engine.withPublisher publisher).emit event : Session σ Unit)
      (engine.emit event) := by
  intro left right agrees
  refine ⟨rfl, ?_⟩
  have same : event (engine.startedAt.after left.clock) =
      event (engine.startedAt.after right.clock) := by
    rw [agrees.clock]
  change (afterEvent publisher (event (engine.startedAt.after left.clock)) left).Agrees
    (afterEvent engine.publisher (event (engine.startedAt.after right.clock)) right)
  rw [same]
  apply (agrees_afterEvent publisher _ left).trans
  apply World.Agrees.trans _ (agrees_afterEvent engine.publisher _ right).symm
  exact agrees.record rfl

/-- Runs with different publishers keep agreeing to the end. -/
theorem alike_run (environment : Environment σ) (request : Request)
    (clusters : ClusterSet ClusterHandle) :
    Relates World.Agrees Eq ((engine.withPublisher publisher).run environment request clusters)
      (engine.run environment request clusters) :=
  relates_run (World.Agrees.hidden environment) (alike_emit engine publisher) rfl rfl

end Publishers

end Engine

end VolumeMigration
