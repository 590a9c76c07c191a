import VolumeMigration.Proofs.Run.Scenario

/-!
# No object outlives its attempt

Whatever the clusters answer and whenever the token is cancelled, an execution is the work of a
transfer followed by its teardown (`Engine.TornDown`): the teardown asks once for the deletion of
every object that the work created, on the cluster where it was created and the last one first,
and goes on whatever comes of it. `Engine.run_tornDown` says so of every execution of a run whose
candidates are strategies of this library.
-/

namespace VolumeMigration

theorem StrategyRegistry.within_applicable {candidates : List Strategy}
    (builtin : ∀ strategy ∈ candidates, strategy ∈ StrategyRegistry.builtin.strategies) :
    ∀ strategy ∈ candidates, ∀ context,
      (strategy.applicable context).Within Call.isProbe := by
  intro strategy strategy_mem context
  rcases Transfers.of_builtin (builtin strategy strategy_mem) with ⟨transfer, transfers⟩
  exact transfers.within_applicable context

namespace Engine

variable {σ : Type}

/-- A candidate was executed in a run and what its transfer created was deleted. -/
structure TornDown (engine : Engine) (environment : Environment σ) (request : Request)
    (clusters : ClusterSet ClusterHandle) (world : World σ) (chronicle : List Moment)
    (strategy : Strategy) (transfer : AttemptContext → Provisioning Unit) (position : Nat)
    (attempt : AttemptResult) (started middle ended : World σ) (work teardown : List Occurrence) :
    Prop where
  transfers : Transfers strategy transfer
  /-- Work and teardown are all that falls into the state of executing the candidate. -/
  executedAt : engine.ExecutedAt environment request clusters world chronicle strategy position
    attempt started ended (work ++ teardown)
  /-- The transfer ran from `started` to `middle`, and its outcome is that of the attempt. -/
  transferred : ∃ outcome resources,
    (transfer (engine.context request clusters position) .empty).run environment started =
        (.ok (outcome, resources), middle) ∧
      attempt.outcome = outcomeOf outcome
  working : started.Follows middle work
  releasing : middle.Follows ended teardown
  /-- Nothing is deleted while the transfer works. -/
  undeleted : ∀ exchange ∈ exchanges work, exchange.deletion? = none
  /-- After that there is one call for every object that was created, which deletes it. -/
  deleted : (exchanges teardown).map Exchange.deletion? =
    (creations (exchanges work)).reverse.map some
  /-- Every call that failed to delete an object is told. -/
  leftovers : attempt.teardownFailures = (exchanges teardown).filterMap Exchange.leftover?

/-- The execution of a strategy that transfers is its transfer and a teardown. -/
theorem ExecutedAt.tornDown {engine : Engine} {environment : Environment σ} {request : Request}
    {clusters : ClusterSet ClusterHandle} {world : World σ} {chronicle : List Moment}
    {strategy : Strategy} {position : Nat} {attempt : AttemptResult} {started ended : World σ}
    {trace : List Occurrence} {transfer : AttemptContext → Provisioning Unit}
    (executed : engine.ExecutedAt environment request clusters world chronicle strategy position
      attempt started ended trace) (transfers : Transfers strategy transfer) :
    ∃ middle work teardown, engine.TornDown environment request clusters world chronicle strategy
      transfer position attempt started middle ended work teardown := by
  let context := engine.context request clusters position
  rcases executed.executed with ⟨outcome, run, outcome_eq⟩
  rcases run_withResources environment (transfers.accountable context) started with
    ⟨middle, work, teardown, released⟩
  rw [← transfers.execute_eq, run] at released
  have trace_eq : work ++ teardown = trace := by
    rw [← (released.working.trans released.releasing).since, executed.runs.since]
  subst trace_eq
  rcases released.transferred with ⟨resources, transferred⟩
  refine ⟨middle, work, teardown, transfers, executed, ⟨outcome, resources, transferred,
    outcome_eq⟩, released.working, released.releasing, released.undeleted, released.deleted, ?_⟩
  rw [executed.leftovers, released.leftovers, executed.cleared, List.nil_append]

section TornDown

variable {engine : Engine} {environment : Environment σ} {request : Request}
  {clusters : ClusterSet ClusterHandle} {world : World σ} {chronicle : List Moment}
  {strategy : Strategy} {transfer : AttemptContext → Provisioning Unit} {position : Nat}
  {attempt : AttemptResult} {started middle ended : World σ} {work teardown : List Occurrence}

/-- The work of an execution is a course of the transfer, which decides the attempt's outcome. -/
theorem TornDown.course
    (tornDown : engine.TornDown environment request clusters world chronicle strategy transfer
      position attempt started middle ended work teardown) :
    ∃ outcome resources leftovers,
      (transfer (engine.context request clusters position) .empty).Course started.cancelled work
          leftovers (.ok (outcome, resources)) ∧
        attempt.outcome = outcomeOf outcome := by
  rcases tornDown.transferred with ⟨outcome, resources, run, outcome_eq⟩
  rcases follows_of_run run with ⟨trace, leftovers, course, follows, -⟩
  rw [follows.since.symm.trans tornDown.working.since] at course
  exact ⟨outcome, resources, leftovers, course, outcome_eq⟩

/-- A teardown only deletes. -/
theorem TornDown.deletes
    (tornDown : engine.TornDown environment request clusters world chronicle strategy transfer
      position attempt started middle ended work teardown) :
    ∀ exchange ∈ exchanges teardown, exchange.call.isDelete = true :=
  isDelete_of_deletions tornDown.deleted

/-- The deletions of an execution are those of what it created, the last one first. -/
theorem TornDown.deletions
    (tornDown : engine.TornDown environment request clusters world chronicle strategy transfer
      position attempt started middle ended work teardown) :
    (exchangesDuring (.executing position) chronicle).filterMap Exchange.deletion? =
      (creations (exchangesDuring (.executing position) chronicle)).reverse := by
  have deleting : (exchanges teardown).filterMap Exchange.deletion? =
      (creations (exchanges work)).reverse := by
    have deleted := congrArg (List.filterMap id) tornDown.deleted
    simpa [List.filterMap_map] using deleted
  have work_undeleted : (exchanges work).filterMap Exchange.deletion? = [] :=
    List.filterMap_eq_nil_iff.mpr tornDown.undeleted
  have teardown_creates : creations (exchanges teardown) = [] := by
    refine List.filterMap_eq_nil_iff.mpr fun exchange exchange_mem => ?_
    exact Exchange.creation?_of_isDelete (tornDown.deletes exchange exchange_mem)
  rw [tornDown.executedAt.exchanges_eq, exchanges_append, List.filterMap_append, work_undeleted,
    deleting, creations_append, teardown_creates, List.nil_append, List.append_nil]

end TornDown

section Run

variable {engine : Engine} {request : Request} {candidates : List Strategy}

/-- Every candidate whose execution the chronicle tells of deleted what it created. -/
theorem exists_tornDown
    (resolved : engine.registry.resolve request.strategies = .ok candidates)
    (builtin : ∀ strategy ∈ candidates, strategy ∈ StrategyRegistry.builtin.strategies)
    (environment : Environment σ) (clusters : ClusterSet ClusterHandle) (world : World σ)
    {position : Nat} {moment : Moment}
    (moment_mem : moment ∈ engine.chronicle environment request clusters world)
    (executing : moment.state = .executing position) :
    ∃ strategy transfer attempt started middle ended work teardown,
      candidates[position]? = some strategy ∧
        (attemptsOf ((engine.run environment request clusters).run world).1)[position]? =
          some attempt ∧
        engine.TornDown environment request clusters world
          (engine.chronicle environment request clusters world) strategy transfer position attempt
          started middle ended work teardown := by
  rcases run_executedAt resolved (StrategyRegistry.within_applicable builtin) environment clusters
    world moment_mem executing with
    ⟨strategy, attempt, started, ended, trace, strategy_at, attempt_at, executed⟩
  rcases Transfers.of_builtin (builtin strategy (List.mem_of_getElem? strategy_at)) with
    ⟨transfer, transfers⟩
  rcases executed.tornDown transfers with ⟨middle, work, teardown, tornDown⟩
  exact ⟨strategy, transfer, attempt, started, middle, ended, work, teardown, strategy_at,
    attempt_at, tornDown⟩

end Run

/-- In every run whose candidates are strategies of this library, objects are created and deleted
only while a candidate is executed, every execution deletes exactly what it created, an attempt
that was not executed left nothing over, and no call about a candidate comes after one about a
later candidate. -/
theorem run_tornDown {engine : Engine} {request : Request} {candidates : List Strategy}
    (resolved : engine.registry.resolve request.strategies = .ok candidates)
    (builtin : ∀ strategy ∈ candidates, strategy ∈ StrategyRegistry.builtin.strategies)
    (environment : Environment σ) (clusters : ClusterSet ClusterHandle) (world : World σ) :
    let chronicle := engine.chronicle environment request clusters world
    let attempts := attemptsOf ((engine.run environment request clusters).run world).1
    (∀ call ∈ calls chronicle, (call.2.call.isCreate || call.2.call.isDelete) = true →
        ∃ position, call.1 = .executing position) ∧
      (∀ position, (∃ moment ∈ chronicle, moment.state = .executing position) →
        ∃ strategy transfer attempt started middle ended work teardown,
          candidates[position]? = some strategy ∧ attempts[position]? = some attempt ∧
            engine.TornDown environment request clusters world chronicle strategy transfer
              position attempt started middle ended work teardown) ∧
      (∀ position attempt, attempts[position]? = some attempt →
        (∀ moment ∈ chronicle, moment.state ≠ .executing position) →
          attempt.teardownFailures = []) ∧
      (calls chronicle).Pairwise fun earlier later =>
        ∀ position ∈ earlier.1.position?, ∀ other ∈ later.1.position?, position ≤ other := by
  intro chronicle attempts
  have probing := StrategyRegistry.within_applicable builtin
  rcases run_calls resolved probing environment clusters world with ⟨called, ordered⟩
  refine ⟨?_, ?_, ?_, ordered⟩
  · intro call call_mem changes
    rcases called call call_mem with ⟨position, ⟨-, probe⟩ | executing⟩
    · cases kind : call.2.call <;> simp_all [Call.isProbe, Call.isCreate, Call.isDelete]
    · exact ⟨position, executing⟩
  · rintro position ⟨moment, moment_mem, executing⟩
    exact exists_tornDown resolved builtin environment clusters world moment_mem executing
  · intro position attempt attempt_at unexecuted
    exact (run_unexecuted resolved probing environment clusters world attempt_at unexecuted).2

/-- The quiet migration executes its first candidate and deletes what that created. -/
theorem run_tornDown_quiet :
    Quiet.engine.registry.resolve Quiet.request.strategies =
        .ok StrategyRegistry.builtin.strategies ∧
      ∃ strategy transfer attempt started middle ended work teardown,
        Quiet.engine.TornDown Quiet.environment Quiet.request Quiet.clusters (World.start ())
          (Quiet.engine.chronicle Quiet.environment Quiet.request Quiet.clusters (World.start ()))
          strategy transfer 0 attempt started middle ended work teardown := by
  refine ⟨Quiet.resolved, ?_⟩
  rcases (run_tornDown Quiet.resolved (fun _ strategy_mem => strategy_mem) Quiet.environment
    Quiet.clusters (World.start ())).2.1 0 Quiet.executes_first with
    ⟨strategy, transfer, attempt, started, middle, ended, work, teardown, -, -, tornDown⟩
  exact ⟨strategy, transfer, attempt, started, middle, ended, work, teardown, tornDown⟩

end Engine

end VolumeMigration
