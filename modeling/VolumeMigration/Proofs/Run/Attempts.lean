import Mathlib.Tactic.SplitIfs
import VolumeMigration.Proofs.Run.Chronicle

/-!
# What a run does

`Engine.Tried` says all that is done with one candidate, and `Engine.Walk` all that is done with
the candidates of a request, one after the other. Between the plans of the strategies a run only
takes notes (`World.Notes`): it asks no cluster, lets no time pass and leaves the token alone.

`Engine.attempt_tried` and `Engine.tryCandidates_walk` are the only places where the steps of the
engine are looked at; every property of runs is derived from the two relations.
-/

namespace VolumeMigration

/-- Between two worlds a run only took notes, of some changes of its state and some events. -/
structure World.Notes {σ : Type} (before after : World σ) (steps : List RunStep)
    (events : List MigrationEvent) : Prop where
  clusters : after.clusters = before.clusters
  clock : after.clock = before.clock
  cancelled : after.cancelled = before.cancelled
  history : ∃ notes, after.history.toList = before.history.toList ++ notes ∧
    (∀ occurrence ∈ notes, occurrence.isNote = true) ∧
    notes.filterMap Occurrence.step? = steps ∧ notes.filterMap Occurrence.event? = events

namespace World

variable {σ : Type}

theorem Notes.refl (world : World σ) : world.Notes world [] [] :=
  ⟨rfl, rfl, rfl, [], by simp⟩

/-- Notes that follow each other are taken in order. -/
theorem Notes.trans {before middle after : World σ} {steps moreSteps : List RunStep}
    {events moreEvents : List MigrationEvent} (left : before.Notes middle steps events)
    (right : middle.Notes after moreSteps moreEvents) :
    before.Notes after (steps ++ moreSteps) (events ++ moreEvents) := by
  rcases left.history with ⟨first, first_history, first_notes, rfl, rfl⟩
  rcases right.history with ⟨second, second_history, second_notes, rfl, rfl⟩
  refine ⟨right.clusters.trans left.clusters, right.clock.trans left.clock,
    right.cancelled.trans left.cancelled, first ++ second, ?_, ?_, ?_, ?_⟩
  · rw [second_history, first_history, List.append_assoc]
  · intro occurrence occurrence_mem
    rcases List.mem_append.mp occurrence_mem with mem | mem
    · exact first_notes occurrence mem
    · exact second_notes occurrence mem
  · exact List.filterMap_append
  · exact List.filterMap_append

theorem Notes.follows {before after : World σ} {steps : List RunStep}
    {events : List MigrationEvent} (notes : before.Notes after steps events) :
    ∃ trace, before.Follows after trace ∧
      (∀ occurrence ∈ trace, occurrence.isNote = true) ∧
      statesOf trace = steps.map RunStep.state := by
  rcases notes.history with ⟨trace, history, all_notes, rfl, -⟩
  refine ⟨trace, ⟨history, ?_⟩, all_notes, rfl⟩
  rw [cancelledAfter_of_notes all_notes, notes.cancelled]

theorem notes_record (world : World σ) (occurrence : Occurrence)
    (note : occurrence.isNote = true) :
    world.Notes (world.record occurrence) occurrence.step?.toList occurrence.event?.toList := by
  refine ⟨rfl, rfl, rfl, [occurrence], by simp [record], by simpa using note, ?_, ?_⟩
  · cases told : occurrence.step? <;> simp [told]
  · cases told : occurrence.event? <;> simp [told]

theorem Notes.log {before after : World σ} {steps : List RunStep}
    {events : List MigrationEvent} (notes : before.Notes after steps events)
    (entry : LogRecord) : before.Notes (after.log entry) steps events := by
  simpa [World.log, Occurrence.step?, Occurrence.event?] using
    notes.trans (after.notes_record (.logged entry) rfl)

theorem Notes.logAll {before after : World σ} {steps : List RunStep}
    {events : List MigrationEvent} (notes : before.Notes after steps events)
    (entries : List LogRecord) :
    before.Notes (entries.foldl World.log after) steps events := by
  induction entries generalizing after with
  | nil => exact notes
  | cons entry rest ih => exact ih (notes.log entry)

theorem Notes.clear {before after : World σ} {steps : List RunStep}
    {events : List MigrationEvent} (notes : before.Notes after steps events) :
    before.Notes { after with leftovers := [] } steps events :=
  ⟨notes.clusters, notes.clock, notes.cancelled, notes.history⟩

@[simp]
theorem leftovers_log (world : World σ) (entry : LogRecord) :
    (world.log entry).leftovers = world.leftovers :=
  rfl

@[simp]
theorem leftovers_logAll (world : World σ) (entries : List LogRecord) :
    (entries.foldl World.log world).leftovers = world.leftovers := by
  induction entries generalizing world with
  | nil => rfl
  | cons entry rest ih => simp [ih]

end World

namespace Engine

variable {σ : Type} {before after : World σ} {steps : List RunStep} {events : List MigrationEvent}

/-- The time that an event tells in a world. -/
def timeIn (engine : Engine) (world : World σ) : Instant :=
  engine.startedAt.after world.clock

theorem notes_transition (notes : before.Notes after steps events) (state : RunState)
    (message : String) :
    before.Notes ((transition state message).run after).2
      (steps ++ [⟨state, message, before.clock⟩]) events := by
  rw [← notes.clock]
  have told := (notes.log ⟨.debug, message⟩).trans
    (World.notes_record _ (.stepped ⟨state, message, after.clock⟩) rfl)
  rw [show (Occurrence.stepped _).event?.toList = [] from rfl, List.append_nil] at told
  exact told

theorem notes_emit (engine : Engine) (notes : before.Notes after steps events)
    (event : Instant → MigrationEvent) :
    before.Notes ((engine.emit event).run after).2 steps
      (events ++ [event (engine.timeIn before)]) := by
  rw [timeIn, ← notes.clock]
  let delivery := engine.publisher after.events.length (event (engine.timeIn after))
  let emitted := after.record (.emitted (event (engine.timeIn after)) delivery.failure.isNone)
  have told : before.Notes (delivery.records.foldl World.log emitted) steps
      (events ++ [event (engine.timeIn after)]) := by
    have recorded : before.Notes emitted _ _ := notes.trans (after.notes_record _ rfl)
    simpa [Occurrence.step?, Occurrence.event?] using recorded.logAll delivery.records
  change before.Notes (afterEvent engine.publisher (event (engine.timeIn after)) after) _ _
  unfold afterEvent
  dsimp only
  split
  · exact told
  · exact told.log _

@[simp]
theorem leftovers_transition (state : RunState) (message : String) (world : World σ) :
    ((transition state message).run world).2.leftovers = world.leftovers :=
  rfl

@[simp]
theorem leftovers_emit (engine : Engine) (event : Instant → MigrationEvent) (world : World σ) :
    ((engine.emit event).run world).2.leftovers = world.leftovers := by
  change (afterEvent engine.publisher (event (engine.timeIn world)) world).leftovers = _
  unfold afterEvent
  dsimp only
  split <;> simp

/-- The warnings about what a strategy could not delete. -/
def warnLeftovers (strategy : Strategy) (leftovers : List String) : Session σ PUnit :=
  forIn leftovers PUnit.unit fun leftover _ => do
    log .warn ("Cleanup after " ++ strategy.name ++ " incomplete: " ++ leftover)
    pure (ForInStep.yield PUnit.unit)

theorem notes_warnLeftovers (notes : before.Notes after steps events) (strategy : Strategy)
    (leftovers : List String) :
    before.Notes ((warnLeftovers strategy leftovers).run after).2 steps events := by
  induction leftovers generalizing after with
  | nil => exact notes
  | cons leftover rest ih =>
      rw [warnLeftovers, List.forIn_cons]
      exact ih (notes.log _)

/-- What becomes of an attempt that was executed. -/
def outcomeOf : Except Failure Unit → AttemptOutcome
  | .ok () => .succeeded
  | .error failure => .failed failure.kind failure.message

/-- The message of a transfer that failed. -/
def errorOf : Except Failure Unit → Option String
  | .ok () => none
  | .error failure => some failure.message

/-- What is done with one candidate: it is evaluated once, executed once if it applies, and never
otherwise. The outcome and the leftovers of the attempt are those of the execution. -/
inductive Tried (engine : Engine) (environment : Environment σ) (strategy : Strategy)
    (position : Nat) (context : AttemptContext) : World σ → AttemptResult → World σ → Prop where
  | declined {before opened judged after : World σ} {reason : String}
      (opening : before.Notes opened
        [⟨.evaluating position, "Evaluating " ++ strategy.name, before.clock⟩]
        [.evaluationStarted (engine.timeIn before) strategy.name position])
      (cleared : opened.leftovers = [])
      (evaluation : (strategy.applicable context).run environment opened =
        (.ok (.notApplicable reason), judged))
      (closing : judged.Notes after [⟨.notApplicable position, reason, judged.clock⟩]
        [.applicabilityDetermined (engine.timeIn judged) strategy.name false (some reason)]) :
      Tried engine environment strategy position context before
        { strategy := strategy.name
          outcome := .notApplicable reason
          elapsed := after.clock - before.clock
          teardownFailures := [] } after
  | undetermined {before opened judged after : World σ} {failure : Failure}
      (opening : before.Notes opened
        [⟨.evaluating position, "Evaluating " ++ strategy.name, before.clock⟩]
        [.evaluationStarted (engine.timeIn before) strategy.name position])
      (cleared : opened.leftovers = [])
      (evaluation : (strategy.applicable context).run environment opened =
        (.error failure, judged))
      (closing : judged.Notes after [⟨.failed position, failure.message, judged.clock⟩]
        [.applicabilityDetermined (engine.timeIn judged) strategy.name false
          (some failure.message)]) :
      Tried engine environment strategy position context before
        { strategy := strategy.name
          outcome := .failed failure.kind failure.message
          elapsed := after.clock - before.clock
          teardownFailures := [] } after
  | executed {before opened judged started ended after : World σ}
      {outcome : Except Failure Unit}
      (opening : before.Notes opened
        [⟨.evaluating position, "Evaluating " ++ strategy.name, before.clock⟩]
        [.evaluationStarted (engine.timeIn before) strategy.name position])
      (cleared : opened.leftovers = [])
      (evaluation : (strategy.applicable context).run environment opened =
        (.ok .applicable, judged))
      (starting : judged.Notes started
        [⟨.applicable position, strategy.name ++ " is applicable", judged.clock⟩,
          ⟨.executing position,
            "Executing " ++ strategy.name ++ " (attempt " ++ context.attemptId ++ ")",
            judged.clock⟩]
        [.applicabilityDetermined (engine.timeIn judged) strategy.name true none,
          .executionStarted (engine.timeIn judged) strategy.name context.attemptId])
      (kept : started.leftovers = judged.leftovers)
      (execution : (strategy.execute context).run environment started = (outcome, ended))
      (closing : ended.Notes after
        ((errorOf outcome).toList.map fun message =>
          ⟨.failed position, message, ended.clock⟩)
        [.executionFinished (engine.timeIn ended) strategy.name context.attemptId
          (errorOf outcome).isNone (errorOf outcome) ended.leftovers
          (Duration.wholeMillis (ended.clock - before.clock))]) :
      Tried engine environment strategy position context before
        { strategy := strategy.name
          outcome := outcomeOf outcome
          elapsed := after.clock - before.clock
          teardownFailures := ended.leftovers } after

theorem notes_declined (engine : Engine) (strategy : Strategy) (position : Nat)
    (started : Duration) (reason : String) (world : World σ) :
    world.Notes ((engine.declined strategy position started reason).run world).2
      [⟨.notApplicable position, reason, world.clock⟩]
      [.applicabilityDetermined (engine.timeIn world) strategy.name false (some reason)] :=
  engine.notes_emit (notes_transition ((World.Notes.refl world).log _) _ _)
    (.applicabilityDetermined · strategy.name false (some reason))

theorem notes_undetermined (engine : Engine) (strategy : Strategy) (position : Nat)
    (started : Duration) (failure : Failure) (world : World σ) :
    world.Notes ((engine.undetermined strategy position started failure).run world).2
      [⟨.failed position, failure.message, world.clock⟩]
      [.applicabilityDetermined (engine.timeIn world) strategy.name false
        (some failure.message)] :=
  engine.notes_emit (notes_transition ((World.Notes.refl world).log _) _ _)
    (.applicabilityDetermined · strategy.name false (some failure.message))

theorem executed_run (engine : Engine) (strategy : Strategy) (position : Nat)
    (started : Duration) (attemptId : String) (outcome : Except Failure Unit) (ended : World σ) :
    ∃ after, (engine.executed strategy position started attemptId outcome).run ended =
        ({ strategy := strategy.name
           outcome := outcomeOf outcome
           elapsed := after.clock - started
           teardownFailures := ended.leftovers }, after) ∧
      ended.Notes after
        ((errorOf outcome).toList.map fun message => ⟨.failed position, message, ended.clock⟩)
        [.executionFinished (engine.timeIn ended) strategy.name attemptId
          (errorOf outcome).isNone (errorOf outcome) ended.leftovers
          (Duration.wholeMillis (ended.clock - started))] := by
  let cleaned := ((warnLeftovers strategy ended.leftovers).run { ended with leftovers := [] }).2
  let finish (error : Option String) : Session σ Unit :=
    engine.emit (.executionFinished · strategy.name attemptId error.isNone error ended.leftovers
      (Duration.wholeMillis (cleaned.clock - started)))
  have cleaning : ended.Notes cleaned [] [] :=
    notes_warnLeftovers (World.Notes.refl ended).clear _ _
  have finished (error : Option String) : ended.Notes ((finish error).run cleaned).2 []
      [.executionFinished (engine.timeIn ended) strategy.name attemptId error.isNone error
        ended.leftovers (Duration.wholeMillis (ended.clock - started))] := by
    rw [← cleaning.clock]
    exact engine.notes_emit cleaning _
  cases outcome with
  | ok done => exact ⟨((finish none).run cleaned).2, rfl, finished none⟩
  | error failure =>
      let warned := ((finish (some failure.message)).run cleaned).2.log
        ⟨.warn, "Strategy " ++ strategy.name ++ " failed: " ++ failure.message⟩
      refine ⟨((transition (.failed position) failure.message).run warned).2, rfl, ?_⟩
      exact notes_transition ((finished (some failure.message)).log _) _ _

theorem execute_run (engine : Engine) (environment : Environment σ) (strategy : Strategy)
    (position : Nat) (started : Duration) (context : AttemptContext) (judged : World σ) :
    ∃ starting : World σ,
      judged.Notes starting
          [⟨.applicable position, strategy.name ++ " is applicable", judged.clock⟩,
            ⟨.executing position,
              "Executing " ++ strategy.name ++ " (attempt " ++ context.attemptId ++ ")",
              judged.clock⟩]
          [.applicabilityDetermined (engine.timeIn judged) strategy.name true none,
            .executionStarted (engine.timeIn judged) strategy.name context.attemptId] ∧
        starting.leftovers = judged.leftovers ∧
        (engine.execute environment strategy position started context).run judged =
          (engine.executed strategy position started context.attemptId
            ((strategy.execute context).run environment starting).1).run
              ((strategy.execute context).run environment starting).2 := by
  have applicable := engine.notes_emit
    (notes_transition (World.Notes.refl judged) (.applicable position)
      (strategy.name ++ " is applicable"))
    (.applicabilityDetermined · strategy.name true none)
  have executing := engine.notes_emit
    (notes_transition applicable (.executing position)
      ("Executing " ++ strategy.name ++ " (attempt " ++ context.attemptId ++ ")"))
    (.executionStarted · strategy.name context.attemptId)
  exact ⟨_, executing, by simp, rfl⟩

/-- What an attempt that began at a time goes on with when the strategy has said whether it
applies. -/
def judge (engine : Engine) (environment : Environment σ) (strategy : Strategy) (position : Nat)
    (started : Duration) (context : AttemptContext) :
    Except Failure Applicability → Session σ AttemptResult
  | .ok .applicable => engine.execute environment strategy position started context
  | .ok (.notApplicable reason) => engine.declined strategy position started reason
  | .error failure => engine.undetermined strategy position started failure

/-- Every attempt tries its candidate in one of the ways that there are. -/
theorem attempt_tried (engine : Engine) (environment : Environment σ) (strategy : Strategy)
    (position : Nat) (context : AttemptContext) (world : World σ) :
    engine.Tried environment strategy position context world
      ((engine.attempt environment strategy position context).run world).1
      ((engine.attempt environment strategy position context).run world).2 := by
  let announce : Session σ Unit := do
    transition (.evaluating position) ("Evaluating " ++ strategy.name)
    engine.emit (.evaluationStarted · strategy.name position)
  let opened : World σ := { (announce.run world).2 with leftovers := [] }
  have opening : world.Notes opened
      [⟨.evaluating position, "Evaluating " ++ strategy.name, world.clock⟩]
      [.evaluationStarted (engine.timeIn world) strategy.name position] :=
    (engine.notes_emit (notes_transition (World.Notes.refl world) _ _)
      (.evaluationStarted · strategy.name position)).clear
  have attempt_run : (engine.attempt environment strategy position context).run world =
      (engine.judge environment strategy position world.clock context
        ((strategy.applicable context).run environment opened).1).run
          ((strategy.applicable context).run environment opened).2 := rfl
  rcases evaluation : (strategy.applicable context).run environment opened with
    ⟨failure | _ | reason, judged⟩
  · rw [attempt_run, evaluation]
    exact .undetermined opening rfl evaluation (engine.notes_undetermined _ _ world.clock _ _)
  · rw [attempt_run, evaluation]
    rcases engine.execute_run environment strategy position world.clock context judged with
      ⟨started, starting, kept, execute_run⟩
    rcases execution : (strategy.execute context).run environment started with
      ⟨outcome, ended⟩
    rw [execution] at execute_run
    rcases engine.executed_run strategy position world.clock context.attemptId outcome ended
      with ⟨after, executed_run, closing⟩
    change engine.Tried environment strategy position context world
      ((engine.execute environment strategy position world.clock context).run judged).1
      ((engine.execute environment strategy position world.clock context).run judged).2
    rw [execute_run, executed_run]
    exact .executed opening rfl evaluation starting kept execution closing
  · rw [attempt_run, evaluation]
    exact .declined opening rfl evaluation (engine.notes_declined _ _ world.clock _ _)

/-- What is done with the candidates that remain, after the attempts made so far: they are tried
in order until one succeeds, the token is cancelled or one was interrupted, or none is left. -/
inductive Walk (engine : Engine) (environment : Environment σ) (request : Request)
    (clusters : ClusterSet ClusterHandle) : List Strategy → List AttemptResult → World σ →
    Except Failure MigrationReport → World σ → Prop where
  | exhausted {made : List AttemptResult} {before after : World σ}
      (closing : before.Notes after
        [⟨.exhaustedFailed, "No strategy succeeded", before.clock⟩] []) :
      Walk engine environment request clusters [] made before (.error (.exhausted made)) after
  | stoppedBefore {strategy : Strategy} {rest : List Strategy} {made : List AttemptResult}
      {before after : World σ} (cancelled : before.cancelled = true)
      (closing : before.Notes after
        [⟨.cancelled, "Cancelled before next candidate", before.clock⟩] []) :
      Walk engine environment request clusters (strategy :: rest) made before
        (.error (.migrationCancelled made)) after
  | succeeded {strategy : Strategy} {rest : List Strategy} {made : List AttemptResult}
      {attempt : AttemptResult} {before tried after : World σ} {elapsed : Duration}
      (running : before.cancelled = false)
      (trying : engine.Tried environment strategy made.length
        (engine.context request clusters made.length) before attempt tried)
      (success : attempt.outcome = .succeeded)
      (closing : tried.Notes after [⟨.succeeded, "Migration completed", tried.clock⟩] []) :
      Walk engine environment request clusters (strategy :: rest) made before
        (.ok ⟨strategy.name, made ++ [attempt], elapsed⟩) after
  | stoppedAfter {strategy : Strategy} {rest : List Strategy} {made : List AttemptResult}
      {attempt : AttemptResult} {before tried after : World σ}
      (running : before.cancelled = false)
      (trying : engine.Tried environment strategy made.length
        (engine.context request clusters made.length) before attempt tried)
      (failure : attempt.outcome ≠ .succeeded)
      (interrupted : wasCancelled attempt = true ∨ tried.cancelled = true)
      (closing : tried.Notes after
        [⟨.cancelled, "Cancelled during attempt", tried.clock⟩] []) :
      Walk engine environment request clusters (strategy :: rest) made before
        (.error (.migrationCancelled (made ++ [attempt]))) after
  | next {strategy : Strategy} {rest : List Strategy} {made : List AttemptResult}
      {attempt : AttemptResult} {before tried after : World σ}
      {result : Except Failure MigrationReport} (running : before.cancelled = false)
      (trying : engine.Tried environment strategy made.length
        (engine.context request clusters made.length) before attempt tried)
      (failure : attempt.outcome ≠ .succeeded) (uninterrupted : wasCancelled attempt = false)
      (stillRunning : tried.cancelled = false)
      (walk : Walk engine environment request clusters rest (made ++ [attempt]) tried result
        after) :
      Walk engine environment request clusters (strategy :: rest) made before result after

theorem tryCandidates_cons {engine : Engine} {environment : Environment σ} {request : Request}
    {clusters : ClusterSet ClusterHandle} {strategy : Strategy} {rest : List Strategy}
    {made : List AttemptResult} {world tried : World σ} {attempt : AttemptResult}
    (attempted : (engine.attempt environment strategy made.length
      (engine.context request clusters made.length)).run world = (attempt, tried)) :
    (engine.tryCandidates environment request clusters (strategy :: rest) made).run world =
      if world.cancelled then (stop "Cancelled before next candidate" made).run world
      else if attempt.isSuccess then (complete strategy (made ++ [attempt])).run tried
      else if wasCancelled attempt || tried.cancelled then
        (stop "Cancelled during attempt" (made ++ [attempt])).run tried
      else
        (engine.tryCandidates environment request clusters rest (made ++ [attempt])).run
          tried := by
  simp only [tryCandidates, StateT.run_bind, StateT.run_get, pure_bind]
  split
  · rfl
  · simp only [StateT.run_bind, StateT.run_get, pure_bind, attempted]
    change (if attempt.isSuccess then complete strategy (made ++ [attempt])
      else if wasCancelled attempt || tried.cancelled then _ else _ : Session σ _).run tried = _
    split
    · rfl
    · split <;> rfl

/-- Trying candidates is a walk along them. -/
theorem tryCandidates_walk (engine : Engine) (environment : Environment σ) (request : Request)
    (clusters : ClusterSet ClusterHandle) (candidates : List Strategy)
    (made : List AttemptResult) (world : World σ) :
    engine.Walk environment request clusters candidates made world
      ((engine.tryCandidates environment request clusters candidates made).run world).1
      ((engine.tryCandidates environment request clusters candidates made).run world).2 := by
  induction candidates generalizing made world with
  | nil => exact .exhausted (notes_transition (World.Notes.refl world) _ _)
  | cons strategy rest ih =>
      have trying := engine.attempt_tried environment strategy made.length
        (engine.context request clusters made.length) world
      rcases attempted : (engine.attempt environment strategy made.length
        (engine.context request clusters made.length)).run world with ⟨attempt, tried⟩
      rw [attempted] at trying
      rw [tryCandidates_cons attempted]
      split_ifs with cancelled success interrupted
      · exact .stoppedBefore cancelled (notes_transition (World.Notes.refl world) _ _)
      · exact .succeeded (by simpa using cancelled) trying
          (by simpa [AttemptResult.isSuccess] using success)
          ((notes_transition (World.Notes.refl tried) _ _).log _)
      · exact .stoppedAfter (by simpa using cancelled) trying
          (by simpa [AttemptResult.isSuccess] using success) (by simpa using interrupted)
          (notes_transition (World.Notes.refl tried) _ _)
      · rw [Bool.or_eq_true, not_or] at interrupted
        exact .next (by simpa using cancelled) trying
          (by simpa [AttemptResult.isSuccess] using success) (by simpa using interrupted.1)
          (by simpa using interrupted.2) (ih (made ++ [attempt]) tried)

/-- A run whose candidates are not valid does nothing but say so. -/
theorem run_of_rejected {engine : Engine} {request : Request} {fault : ConfigurationFault}
    (rejected : engine.registry.resolve request.strategies = .error fault)
    (environment : Environment σ) (clusters : ClusterSet ClusterHandle) (world : World σ) :
    ((engine.run environment request clusters).run world).1 = .error (.configuration fault) ∧
      world.Notes ((engine.run environment request clusters).run world).2
        [⟨.configurationError, (Failure.configuration fault).message, world.clock⟩] [] := by
  have run_eq : engine.run environment request clusters = (do
      transition .configurationError (Failure.configuration fault).message
      return .error (.configuration fault)) := by
    simp only [run, rejected]
  rw [run_eq]
  exact ⟨rfl, notes_transition (World.Notes.refl world) _ _⟩

/-- A run announces its candidates and walks through them. -/
theorem run_walk {engine : Engine} {request : Request} {candidates : List Strategy}
    (resolved : engine.registry.resolve request.strategies = .ok candidates)
    (environment : Environment σ) (clusters : ClusterSet ClusterHandle) (world : World σ) :
    ∃ opened,
      world.Notes opened []
          [.candidatesResolved (engine.timeIn world) (candidates.map Strategy.name)] ∧
        engine.Walk environment request clusters candidates [] opened
          ((engine.run environment request clusters).run world).1
          ((engine.run environment request clusters).run world).2 := by
  have run_eq : engine.run environment request clusters = (do
      log .info
        ("Candidate strategies: " ++ String.intercalate ", " (candidates.map Strategy.name))
      engine.emit (.candidatesResolved · (candidates.map Strategy.name))
      engine.tryCandidates environment request clusters candidates []) := by
    simp only [run, resolved]
  rw [run_eq]
  exact ⟨_, engine.notes_emit ((World.Notes.refl world).log _)
    (.candidatesResolved · (candidates.map Strategy.name)),
    engine.tryCandidates_walk environment request clusters candidates [] _⟩

end Engine

end VolumeMigration
