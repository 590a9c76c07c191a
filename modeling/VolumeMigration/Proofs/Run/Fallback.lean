import VolumeMigration.Proofs.Run.Attempts

/-!
# Falling back from one candidate to the next

A run tries its candidates in order and ends at whatever comes first: a candidate that succeeds, a
token that is cancelled or an attempt that was interrupted, or the end of the list. `Trial` is one
candidate that was tried, between the worlds before and after; `Engine.Trials` links trials that
follow each other. `Engine.FallsBack` is the specification, and `Engine.run_fallsBack` says that
every run meets it, whatever the strategies do.
-/

namespace VolumeMigration

/-- A candidate that was tried, with the worlds before and after. -/
structure Trial (σ : Type) where
  strategy : Strategy
  before : World σ
  attempt : AttemptResult
  after : World σ

namespace Trial

variable {σ : Type}

/-- The attempt migrated the volume. -/
def Succeeded (trial : Trial σ) : Prop :=
  trial.attempt.outcome = .succeeded

/-- The attempt was interrupted, or the token is cancelled after it. -/
def Interrupted (trial : Trial σ) : Prop :=
  (∃ message, trial.attempt.outcome = .failed .cancelled message) ∨
    trial.after.cancelled = true

end Trial

namespace Engine

variable {σ : Type}

/-- Trials that follow each other from a world to another, the first one at a position. -/
inductive Trials (engine : Engine) (environment : Environment σ) (request : Request)
    (clusters : ClusterSet ClusterHandle) : Nat → World σ → List (Trial σ) → World σ → Prop where
  | nil (position : Nat) (world : World σ) :
      Trials engine environment request clusters position world [] world
  | cons {position : Nat} {trial : Trial σ} {rest : List (Trial σ)} {last : World σ}
      (tried : engine.Tried environment trial.strategy position
        (engine.context request clusters position) trial.before trial.attempt trial.after)
      (more : Trials engine environment request clusters (position + 1) trial.after rest last) :
      Trials engine environment request clusters position trial.before (trial :: rest) last

/-- How a run of trials ends, as its result tells. -/
def Ending (candidates : List Strategy) (opened : World σ) (trials : List (Trial σ))
    (attempts : List AttemptResult) : Except Failure MigrationReport → Prop
  | .ok report =>
      ∃ last, trials.getLast? = some last ∧ last.Succeeded ∧
        report.strategy = last.strategy.name ∧ report.attempts = attempts
  | .error (.migrationCancelled told) =>
      told = attempts ∧
        (trials = [] ∧ opened.cancelled = true ∨
          ∃ last, trials.getLast? = some last ∧ ¬last.Succeeded ∧ last.Interrupted)
  | .error (.exhausted told) =>
      told = attempts ∧ trials.map Trial.strategy = candidates ∧
        ∀ trial ∈ trials, ¬trial.Succeeded ∧ ¬trial.Interrupted
  | .error _ => False

/-- The specification of a run with valid candidates, by the trials that it is made of. -/
structure FallsBack (engine : Engine) (environment : Environment σ) (request : Request)
    (clusters : ClusterSet ClusterHandle) (candidates : List Strategy) (world : World σ)
    (trials : List (Trial σ)) (result : Except Failure MigrationReport) (final : World σ) :
    Prop where
  /-- The first candidates are tried, in order. -/
  inOrder : trials.map Trial.strategy <+: candidates
  /-- Each of them is evaluated once and executed exactly if it applies, and nothing else asks a
  cluster, takes time or touches the token. -/
  linked : ∃ opened closed names ending,
    world.Notes opened [] names ∧
      engine.Trials environment request clusters 0 opened trials closed ∧
      closed.Notes final ending [] ∧ ∀ step ∈ ending, step.state.isTerminal = true
  /-- Every attempt has the name of its candidate. -/
  named : trials.map (·.attempt.strategy) = trials.map (·.strategy.name)
  /-- No candidate is tried once the token is cancelled. -/
  running : ∀ trial ∈ trials, trial.before.cancelled = false
  /-- Only the last trial may succeed or be interrupted. -/
  goesOn : ∀ trial ∈ trials.dropLast, ¬trial.Succeeded ∧ ¬trial.Interrupted
  ending : Ending candidates world trials (trials.map Trial.attempt) result

theorem Tried.attempt_strategy {engine : Engine} {environment : Environment σ}
    {strategy : Strategy} {position : Nat} {context : AttemptContext} {before after : World σ}
    {attempt : AttemptResult}
    (tried : engine.Tried environment strategy position context before attempt after) :
    attempt.strategy = strategy.name := by
  cases tried <;> rfl

theorem Trials.named {engine : Engine} {environment : Environment σ} {request : Request}
    {clusters : ClusterSet ClusterHandle} {position : Nat} {world last : World σ}
    {trials : List (Trial σ)}
    (linked : engine.Trials environment request clusters position world trials last) :
    trials.map (·.attempt.strategy) = trials.map (·.strategy.name) := by
  induction linked with
  | nil => rfl
  | cons tried _ ih => simp [tried.attempt_strategy, ih]

theorem wasCancelled_iff (attempt : AttemptResult) :
    wasCancelled attempt = true ↔ ∃ message, attempt.outcome = .failed .cancelled message := by
  rcases attempt with ⟨_, _ | _ | ⟨kind, message⟩, _, _⟩
  · simp [wasCancelled]
  · simp [wasCancelled]
  · cases kind <;> simp [wasCancelled]

/-- A trial that neither succeeded nor was interrupted leaves the ending to those after it. -/
theorem Ending.cons {candidates : List Strategy} {before : World σ} {trial : Trial σ}
    {trials : List (Trial σ)} {attempts : List AttemptResult}
    {result : Except Failure MigrationReport}
    (ending : Ending candidates trial.after trials attempts result) (failure : ¬trial.Succeeded)
    (uninterrupted : ¬trial.Interrupted) :
    Ending (trial.strategy :: candidates) before (trial :: trials) attempts result := by
  have last_cons {last : Trial σ} (found : trials.getLast? = some last) :
      (trial :: trials).getLast? = some last := by
    rw [List.getLast?_cons, found, Option.getD_some]
  match result, ending with
  | .ok report, ⟨last, found, succeeded, name, told⟩ =>
      exact ⟨last, last_cons found, succeeded, name, told⟩
  | .error (.migrationCancelled _), ⟨told, .inl ⟨_, cancelled⟩⟩ =>
      exact absurd (.inr cancelled) uninterrupted
  | .error (.migrationCancelled _), ⟨told, .inr ⟨last, found, failed, interrupted⟩⟩ =>
      exact ⟨told, .inr ⟨last, last_cons found, failed, interrupted⟩⟩
  | .error (.exhausted _), ⟨told, all, none_ended⟩ =>
      refine ⟨told, by simp [all], ?_⟩
      intro other other_mem
      rcases List.mem_cons.mp other_mem with rfl | other_mem
      · exact ⟨failure, uninterrupted⟩
      · exact none_ended other other_mem

/-- Of the world before the trials, their ending only depends on the token. -/
theorem Ending.of_same_token {candidates : List Strategy} {before opened : World σ}
    {trials : List (Trial σ)} {attempts : List AttemptResult}
    {result : Except Failure MigrationReport} (same : opened.cancelled = before.cancelled)
    (ending : Ending candidates opened trials attempts result) :
    Ending candidates before trials attempts result := by
  unfold Ending at *
  rwa [← same]

/-- Some trials are what a walk along candidates does after the attempts that were made. -/
structure Walked (engine : Engine) (environment : Environment σ) (request : Request)
    (clusters : ClusterSet ClusterHandle) (candidates : List Strategy)
    (made : List AttemptResult) (before : World σ) (result : Except Failure MigrationReport)
    (after : World σ) (trials : List (Trial σ)) : Prop where
  linked : ∃ closed steps,
    engine.Trials environment request clusters made.length before trials closed ∧
      closed.Notes after steps [] ∧ ∀ step ∈ steps, step.state.isTerminal = true
  inOrder : trials.map Trial.strategy <+: candidates
  running : ∀ trial ∈ trials, trial.before.cancelled = false
  goesOn : ∀ trial ∈ trials.dropLast, ¬trial.Succeeded ∧ ¬trial.Interrupted
  ending : Ending candidates before trials (made ++ trials.map Trial.attempt) result

section Walked

variable {engine : Engine} {environment : Environment σ} {request : Request}
  {clusters : ClusterSet ClusterHandle} {candidates : List Strategy} {made : List AttemptResult}
  {before after : World σ} {result : Except Failure MigrationReport}

/-- A walk that ends before it tries a candidate. -/
theorem walked_nil {steps : List RunStep} (closing : before.Notes after steps [])
    (terminal : ∀ step ∈ steps, step.state.isTerminal = true)
    (ending : Ending candidates before [] made result) :
    engine.Walked environment request clusters candidates made before result after [] where
  linked := ⟨before, steps, .nil _ _, closing, terminal⟩
  inOrder := List.nil_prefix
  running := by simp
  goesOn := by simp
  ending := by simpa using ending

variable {strategy : Strategy} {attempt : AttemptResult} {tried : World σ}

/-- A walk that ends after the candidate that it tries first. -/
theorem walked_singleton {steps : List RunStep}
    (trying : engine.Tried environment strategy made.length
      (engine.context request clusters made.length) before attempt tried)
    (running : before.cancelled = false) (closing : tried.Notes after steps [])
    (terminal : ∀ step ∈ steps, step.state.isTerminal = true)
    (ending : Ending (strategy :: candidates) before [⟨strategy, before, attempt, tried⟩]
      (made ++ [attempt]) result) :
    engine.Walked environment request clusters (strategy :: candidates) made before result after
      [⟨strategy, before, attempt, tried⟩] := by
  let trial : Trial σ := ⟨strategy, before, attempt, tried⟩
  have linked : engine.Trials environment request clusters made.length trial.before [trial]
      trial.after := .cons trying (.nil _ _)
  exact
    { linked := ⟨tried, steps, linked, closing, terminal⟩
      inOrder := by simp
      running := by simpa using running
      goesOn := by simp
      ending := ending }

/-- A walk that goes on after a candidate that neither succeeded nor was interrupted. -/
theorem Walked.cons {trials : List (Trial σ)}
    (walked : engine.Walked environment request clusters candidates (made ++ [attempt]) tried
      result after trials)
    (trying : engine.Tried environment strategy made.length
      (engine.context request clusters made.length) before attempt tried)
    (running : before.cancelled = false)
    (failure : ¬Trial.Succeeded ⟨strategy, before, attempt, tried⟩)
    (uninterrupted : ¬Trial.Interrupted ⟨strategy, before, attempt, tried⟩) :
    engine.Walked environment request clusters (strategy :: candidates) made before result after
      (⟨strategy, before, attempt, tried⟩ :: trials) := by
  let trial : Trial σ := ⟨strategy, before, attempt, tried⟩
  rcases walked.linked with ⟨closed, steps, linked, closing, terminal⟩
  have more : engine.Trials environment request clusters (made.length + 1) trial.after trials
      closed := by
    simpa using linked
  have both : engine.Trials environment request clusters made.length trial.before
      (trial :: trials) closed := .cons trying more
  have continued : Ending candidates trial.after trials
      (made ++ (trial :: trials).map Trial.attempt) result := by
    simpa [trial] using walked.ending
  refine
    { linked := ⟨closed, steps, both, closing, terminal⟩
      inOrder := by simpa using walked.inOrder
      running := List.forall_mem_cons.mpr ⟨running, walked.running⟩
      goesOn := ?_
      ending := continued.cons failure uninterrupted }
  rcases trials with _ | ⟨second, others⟩
  · simp
  · exact List.forall_mem_cons.mpr ⟨⟨failure, uninterrupted⟩, walked.goesOn⟩

/-- Every walk along the candidates is made of trials. -/
theorem Walk.trials
    (walk : engine.Walk environment request clusters candidates made before result after) :
    ∃ trials,
      engine.Walked environment request clusters candidates made before result after trials := by
  induction walk with
  | exhausted closing =>
      refine ⟨[], walked_nil closing (by simp [RunState.isTerminal]) ?_⟩
      exact ⟨rfl, rfl, by simp⟩
  | stoppedBefore cancelled closing =>
      refine ⟨[], walked_nil closing (by simp [RunState.isTerminal]) ?_⟩
      exact ⟨rfl, .inl ⟨rfl, cancelled⟩⟩
  | succeeded running trying success closing =>
      refine ⟨_, walked_singleton trying running closing (by simp [RunState.isTerminal]) ?_⟩
      exact ⟨_, rfl, success, rfl, rfl⟩
  | stoppedAfter running trying failure interrupted closing =>
      rw [wasCancelled_iff] at interrupted
      refine ⟨_, walked_singleton trying running closing (by simp [RunState.isTerminal]) ?_⟩
      exact ⟨rfl, .inr ⟨_, rfl, failure, interrupted⟩⟩
  | next running trying failure uninterrupted stillRunning _ ih =>
      rcases ih with ⟨trials, walked⟩
      refine ⟨_, walked.cons trying running failure ?_⟩
      rintro (cancelled | cancelled)
      · have interrupted := (wasCancelled_iff _).mpr cancelled
        rw [uninterrupted] at interrupted
        cases interrupted
      · rw [stillRunning] at cancelled
        cases cancelled

end Walked

/-- Every run falls back from one candidate to the next as specified. With candidates that are not
valid, it does nothing but say so. -/
theorem run_fallsBack (engine : Engine) (environment : Environment σ) (request : Request)
    (clusters : ClusterSet ClusterHandle) (world : World σ) :
    let result := ((engine.run environment request clusters).run world).1
    let final := ((engine.run environment request clusters).run world).2
    match engine.registry.resolve request.strategies with
    | .error fault =>
        result = .error (.configuration fault) ∧
          world.Notes final
            [⟨.configurationError, (Failure.configuration fault).message, world.clock⟩] []
    | .ok candidates =>
        ∃ trials, engine.FallsBack environment request clusters candidates world trials result
          final := by
  intro result final
  rcases resolved : engine.registry.resolve request.strategies with fault | candidates
  · exact run_of_rejected resolved environment clusters world
  · rcases run_walk resolved environment clusters world with ⟨opened, opening, walk⟩
    rcases walk.trials with ⟨trials, walked⟩
    rcases walked.linked with ⟨closed, steps, linked, closing, terminal⟩
    exact ⟨trials, walked.inOrder, ⟨opened, closed, _, _, opening, linked, closing, terminal⟩,
      linked.named, walked.running, walked.goesOn,
      walked.ending.of_same_token opening.cancelled⟩

end Engine

end VolumeMigration
