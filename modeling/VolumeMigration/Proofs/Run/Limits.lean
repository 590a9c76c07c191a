import VolumeMigration.Proofs.Run.Teardown
import VolumeMigration.Proofs.Strategy.Limits

/-!
# How long a run takes

A run takes time only while a candidate is executed, and every execution keeps to the limits of its
waits (`InLimits`), whatever the clusters answer. So a run is over after the limits of all its
candidates together (`Engine.run_inLimits`).
-/

namespace VolumeMigration

section Spends

variable {σ : Type} {environment : Environment σ} {before after : World σ}

theorem World.Notes.spends {steps : List RunStep} {events : List MigrationEvent}
    (notes : before.Notes after steps events) : before.Spends after 0 0 0 := by
  rcases notes.follows with ⟨trace, follows, all_notes, -⟩
  have silent := exchanges_of_notes all_notes
  refine ⟨Nat.le_of_eq notes.clock.symm, Nat.le_of_eq notes.clock, trace, follows, ?_, ?_⟩
  · rw [silent]
    exact Nat.le_refl 0
  · rw [silent]
    exact Nat.le_refl 0

theorem spends_of_run {α : Type} {plan : Plan α} {result : Except Failure α} {time : Duration}
    {looks others : Nat} (ran : plan.run environment before = (result, after))
    (spends : plan.Spends environment time looks others) :
    before.Spends after time looks others := by
  have spent := spends before
  rw [ran] at spent
  exact spent

end Spends

/-- An execution of a strategy takes no longer than the limits of its waits, and each of its waits
keeps to its own limit. -/
structure InLimits {σ : Type} (environment : Environment σ) (pacing : Pacing)
    (strategy : Strategy) (waits : Nat) (started ended : World σ) : Prop where
  readinessWaits : ReadinessWaits strategy waits
  inTime : ended.clock ≤ started.clock + (waits * pacing.readinessLimit + pacing.transferLimit)
  waited : ∃ limits others, limits.Sublist (pacing.limits waits) ∧ others ≤ 18 ∧
    Waits environment pacing limits others started ended

namespace Engine

variable {σ : Type} {engine : Engine} {environment : Environment σ} {request : Request}
  {clusters : ClusterSet ClusterHandle} {before after : World σ}

section Spends

variable {time : Duration} {looks others : Nat}

/-- A trial spends what its evaluation and its execution do. -/
theorem Tried.spends {strategy : Strategy} {position : Nat} {context : AttemptContext}
    {attempt : AttemptResult}
    (tried : engine.Tried environment strategy position context before attempt after)
    (evaluates : (strategy.applicable context).Prompt environment 4)
    (executes : (strategy.execute context).Spends environment time looks others) :
    before.Spends after time looks (4 + others) := by
  cases tried with
  | declined opening cleared evaluation closing
  | undetermined opening cleared evaluation closing =>
      have spent := (opening.spends.trans (spends_of_run evaluation evaluates)).trans closing.spends
      exact spent.mono (Nat.zero_le _) (Nat.zero_le _) (Nat.le_add_right 4 others)
  | executed opening cleared evaluation starting kept execution closing =>
      have judged := opening.spends.trans (spends_of_run evaluation evaluates)
      have executed := (judged.trans starting.spends).trans (spends_of_run execution executes)
      have spent := executed.trans closing.spends
      apply spent.mono <;> simp

/-- A walk spends at most as much for each candidate. -/
theorem Walk.spends {candidates : List Strategy} {made : List AttemptResult}
    {result : Except Failure MigrationReport}
    (walk : engine.Walk environment request clusters candidates made before result after)
    (each : ∀ strategy ∈ candidates, ∀ {position before attempt after},
      engine.Tried environment strategy position (engine.context request clusters position) before
        attempt after → before.Spends after time looks others) :
    before.Spends after (candidates.length * time) (candidates.length * looks)
      (candidates.length * others) := by
  induction walk with
  | exhausted closing => simpa using closing.spends
  | stoppedBefore cancelled closing =>
      exact closing.spends.mono (Nat.zero_le _) (Nat.zero_le _) (Nat.zero_le _)
  | succeeded running trying success closing
  | stoppedAfter running trying failure interrupted closing =>
      have spent := (each _ List.mem_cons_self trying).trans closing.spends
      apply spent.mono <;> simp [Nat.succ_mul]
  | next running trying failure uninterrupted stillRunning walk ih =>
      have spent := (each _ List.mem_cons_self trying).trans
        (ih fun strategy strategy_mem => each strategy (List.mem_cons_of_mem _ strategy_mem))
      rw [List.length_cons, Nat.succ_mul, Nat.succ_mul, Nat.succ_mul]
      apply spent.mono <;> simp [Nat.add_comm]

end Spends

theorem ExecutedAt.inLimits {world : World σ} {chronicle : List Moment} {strategy : Strategy}
    {position waits : Nat} {attempt : AttemptResult} {started ended : World σ}
    {trace : List Occurrence}
    (executed : engine.ExecutedAt environment request clusters world chronicle strategy position
      attempt started ended trace)
    (readinessWaits : ReadinessWaits strategy waits) :
    InLimits environment engine.pacing strategy waits started ended := by
  rcases executed.executed with ⟨outcome, run, -⟩
  have limited : (strategy.execute (engine.context request clusters position)).Limited environment
      engine.pacing (engine.pacing.limits waits) 18 :=
    readinessWaits.limited_execute (engine.context request clusters position)
  have spent := spends_of_run run limited.spends
  rw [Pacing.sum_limits] at spent
  rcases limited started with ⟨waited, called, some_limits, called_le, passed⟩
  rw [run] at passed
  exact ⟨readinessWaits, spent.inTime, waited, called, some_limits, called_le, passed⟩

/-- Every run whose candidates are strategies of this library is over after the limits of all its
candidates, with a bounded number of calls, and every execution in it keeps to its limits. -/
theorem run_inLimits {engine : Engine} {request : Request} {candidates : List Strategy}
    (resolved : engine.registry.resolve request.strategies = .ok candidates)
    (builtin : ∀ strategy ∈ candidates, strategy ∈ StrategyRegistry.builtin.strategies)
    (environment : Environment σ) (clusters : ClusterSet ClusterHandle) (world : World σ) :
    let chronicle := engine.chronicle environment request clusters world
    let attempts := attemptsOf ((engine.run environment request clusters).run world).1
    world.Spends ((engine.run environment request clusters).run world).2
        (candidates.length * (3 * engine.pacing.readinessLimit + engine.pacing.transferLimit))
        (candidates.length * engine.pacing.looks 3) (candidates.length * 22) ∧
      ∀ position, (∃ moment ∈ chronicle, moment.state = .executing position) →
        ∃ strategy attempt started ended trace waits,
          candidates[position]? = some strategy ∧ attempts[position]? = some attempt ∧
            engine.ExecutedAt environment request clusters world chronicle strategy position
              attempt started ended trace ∧
            InLimits environment engine.pacing strategy waits started ended := by
  intro chronicle attempts
  constructor
  · rcases run_walk resolved environment clusters world with ⟨opened, opening, walk⟩
    have each : ∀ strategy ∈ candidates, ∀ {position before attempt after},
        engine.Tried environment strategy position (engine.context request clusters position)
          before attempt after →
          before.Spends after (3 * engine.pacing.readinessLimit + engine.pacing.transferLimit)
            (engine.pacing.looks 3) 22 := by
      intro strategy strategy_mem position before attempt after tried
      rcases Transfers.of_builtin (builtin strategy strategy_mem) with ⟨transfer, transfers⟩
      rcases ReadinessWaits.of_builtin (builtin strategy strategy_mem) with
        ⟨waits, readinessWaits, waits_le⟩
      have limited : (strategy.execute (engine.context request clusters position)).Limited
          environment engine.pacing (engine.pacing.limits waits) 18 :=
        readinessWaits.limited_execute (engine.context request clusters position)
      have spent := tried.spends (transfers.prompt_applicable _) limited.spends
      rw [Pacing.sum_limits, Pacing.looksWithin_limits] at spent
      apply spent.mono
      · exact Nat.add_le_add_right (Nat.mul_le_mul_right _ waits_le) _
      · exact Nat.add_le_add_right (Nat.mul_le_mul_right _ waits_le) _
      · exact Nat.le_refl 22
    simpa using opening.spends.trans (walk.spends each)
  · rintro position ⟨moment, moment_mem, executing⟩
    rcases run_executedAt resolved (StrategyRegistry.within_applicable builtin) environment clusters
      world moment_mem executing with
      ⟨strategy, attempt, started, ended, trace, strategy_at, attempt_at, executed⟩
    rcases ReadinessWaits.of_builtin (builtin strategy (List.mem_of_getElem? strategy_at)) with
      ⟨waits, readinessWaits, -⟩
    exact ⟨strategy, attempt, started, ended, trace, waits, strategy_at, attempt_at, executed,
      executed.inLimits readinessWaits⟩

/-- The quiet migration executes its first candidate within the limits. -/
theorem run_inLimits_quiet :
    Quiet.engine.registry.resolve Quiet.request.strategies =
        .ok StrategyRegistry.builtin.strategies ∧
      ∃ strategy started ended waits,
        StrategyRegistry.builtin.strategies[0]? = some strategy ∧
          InLimits Quiet.environment Quiet.engine.pacing strategy waits started ended := by
  refine ⟨Quiet.resolved, ?_⟩
  rcases (run_inLimits Quiet.resolved (fun _ strategy_mem => strategy_mem)
    Quiet.environment Quiet.clusters (World.start ())).2 0 Quiet.executes_first with
    ⟨strategy, -, started, ended, -, waits, strategy_at, -, -, inLimits⟩
  exact ⟨strategy, started, ended, waits, strategy_at, inLimits⟩

end Engine

end VolumeMigration
