import VolumeMigration.Proofs.Run.Teardown
import VolumeMigration.Proofs.Strategy.Building

/-!
# No success without a finished copy

A report tells its reader that the source may be retired. `Engine.run_earned` says that every
report is earned (`Engine.Earned`): the execution of the candidate that it names created all that
the candidate plans, and the last thing that it looked at before it deleted anything was the pod
that copies, which had succeeded.
-/

namespace VolumeMigration

theorem Exchange.isDelete_eq_false {exchange : Exchange} (undeleted : exchange.deletion? = none) :
    exchange.call.isDelete = false := by
  rcases exchange with ⟨_, _ | _ | _ | _ | _ | _, _⟩ <;> simp_all [deletion?, Call.isDelete]

theorem creation_mem {calls : List Exchange} {cluster : ClusterHandle} {object : ClusterObject}
    {resource : ResourceRef} (created : ⟨cluster, .create object, .ok resource⟩ ∈ calls) :
    (cluster, resource) ∈ creations calls :=
  List.mem_filterMap.mpr ⟨_, created, rfl⟩

theorem Accomplished.creations_ne_nil {context : AttemptContext} {strategy : Strategy}
    {made : List Exchange} (accomplished : Accomplished context strategy made) :
    creations made ≠ [] := by
  rcases accomplished with ⟨source, _, pod, -, -, -, resource, earlier, rfl, created⟩
  apply List.ne_nil_of_mem
  exact creation_mem (List.mem_append_left _ created)

namespace Engine

variable {σ : Type}

/-- How the candidate at a position earned a report: its calls are the work of its transfer and
the deletions that follow it, and the work did all that was planned. -/
structure Earned (engine : Engine) (request : Request) (clusters : ClusterSet ClusterHandle)
    (candidates : List Strategy) (chronicle : List Moment) (report : MigrationReport)
    (position : Nat) (strategy : Strategy) (work teardown : List Exchange) : Prop where
  candidate : candidates[position]? = some strategy
  named : report.strategy = strategy.name
  last : report.attempts.length = position + 1
  calls : exchangesDuring (.executing position) chronicle = work ++ teardown
  accomplished : Accomplished (engine.context request clusters position) strategy work
  undeleted : ∀ exchange ∈ work, exchange.call.isDelete = false
  deleting : teardown ≠ [] ∧ ∀ exchange ∈ teardown, exchange.call.isDelete = true

section Run

variable {engine : Engine} {request : Request} {candidates : List Strategy}

/-- The last attempt of a report succeeded, with the candidate that the report names. -/
theorem run_succeeded (resolved : engine.registry.resolve request.strategies = .ok candidates)
    (environment : Environment σ) (clusters : ClusterSet ClusterHandle) (world : World σ)
    {report : MigrationReport}
    (reported : ((engine.run environment request clusters).run world).1 = .ok report) :
    ∃ position strategy attempt, candidates[position]? = some strategy ∧
      report.strategy = strategy.name ∧ report.attempts.length = position + 1 ∧
      report.attempts[position]? = some attempt ∧ attempt.outcome = .succeeded := by
  rcases run_course resolved environment clusters world with
    ⟨trials, opening, closing, course, -, -, ending⟩
  rw [reported] at ending
  rcases ending with ⟨last, found, succeeded, name, told⟩
  rcases List.getLast?_eq_some_iff.mp found with ⟨earlier, rfl⟩
  rcases course.inOrder with ⟨rest, rfl⟩
  refine ⟨earlier.length, last.strategy, last.attempt, ?_, name, ?_, ?_, succeeded⟩
  · simp
  · simp [told]
  · simp [told]

/-- An attempt that succeeded was executed. -/
theorem run_executed_of_succeeded
    (resolved : engine.registry.resolve request.strategies = .ok candidates)
    (builtin : ∀ strategy ∈ candidates, strategy ∈ StrategyRegistry.builtin.strategies)
    (environment : Environment σ) (clusters : ClusterSet ClusterHandle) (world : World σ)
    {position : Nat} {attempt : AttemptResult}
    (made : (attemptsOf ((engine.run environment request clusters).run world).1)[position]? =
      some attempt)
    (succeeded : attempt.outcome = .succeeded) :
    ∃ moment ∈ engine.chronicle environment request clusters world,
      moment.state = .executing position := by
  apply Classical.byContradiction
  intro unexecuted
  have failed := (run_unexecuted resolved (StrategyRegistry.within_applicable builtin) environment
    clusters world made (by simpa using unexecuted)).1
  exact failed succeeded

end Run

/-- An execution that succeeds has accomplished what its strategy plans. -/
theorem TornDown.earned {engine : Engine} {environment : Environment σ} {request : Request}
    {clusters : ClusterSet ClusterHandle} {world : World σ} {chronicle : List Moment}
    {strategy : Strategy} {transfer : AttemptContext → Provisioning Unit} {position : Nat}
    {attempt : AttemptResult} {started middle ended : World σ} {work teardown : List Occurrence}
    (tornDown : engine.TornDown environment request clusters world chronicle strategy transfer
      position attempt started middle ended work teardown)
    (succeeded : attempt.outcome = .succeeded) :
    Accomplished (engine.context request clusters position) strategy (exchanges work) := by
  rcases tornDown.course with ⟨outcome, resources, leftovers, course, outcome_eq⟩
  rw [succeeded] at outcome_eq
  rcases outcome with failure | done
  · cases outcome_eq
  · exact tornDown.transfers.accomplished course

/-- Every report of a run whose candidates are strategies of this library is earned. -/
theorem run_earned {engine : Engine} {request : Request} {candidates : List Strategy}
    (resolved : engine.registry.resolve request.strategies = .ok candidates)
    (builtin : ∀ strategy ∈ candidates, strategy ∈ StrategyRegistry.builtin.strategies)
    (environment : Environment σ) (clusters : ClusterSet ClusterHandle) (world : World σ)
    {report : MigrationReport}
    (reported : ((engine.run environment request clusters).run world).1 = .ok report) :
    ∃ position strategy work teardown,
      engine.Earned request clusters candidates
        (engine.chronicle environment request clusters world) report position strategy work
        teardown := by
  rcases run_succeeded resolved environment clusters world reported with
    ⟨position, strategy, attempt, candidate, named, last, made, succeeded⟩
  have made_in_run :
      (attemptsOf ((engine.run environment request clusters).run world).1)[position]? =
        some attempt := by
    rw [reported]
    exact made
  rcases run_executed_of_succeeded resolved builtin environment clusters world made_in_run
    succeeded with ⟨moment, moment_mem, executing⟩
  rcases exists_tornDown resolved builtin environment clusters world moment_mem executing with
    ⟨_, transfer, _, started, middle, ended, work, teardown, candidate_at, attempt_at, tornDown⟩
  cases candidate.symm.trans candidate_at
  cases made_in_run.symm.trans attempt_at
  have accomplished := tornDown.earned succeeded
  refine ⟨position, strategy, exchanges work, exchanges teardown, candidate, named, last, ?_,
    accomplished, ?_, ?_, tornDown.deletes⟩
  · rw [tornDown.executedAt.exchanges_eq, exchanges_append]
  · intro exchange exchange_mem
    exact Exchange.isDelete_eq_false (tornDown.undeleted exchange exchange_mem)
  · -- without deletions nothing was created, yet the transfer created its pod
    intro untouched
    have deleted := tornDown.deleted
    rw [untouched, List.map_nil, eq_comm, List.map_eq_nil_iff, List.reverse_eq_nil_iff] at deleted
    exact accomplished.creations_ne_nil deleted

/-- The quiet migration ends with a report, which is earned. -/
theorem run_earned_quiet :
    ∃ report position strategy work teardown,
      ((Quiet.engine.run Quiet.environment Quiet.request Quiet.clusters).run (World.start ())).1 =
          .ok report ∧
        Quiet.engine.Earned Quiet.request Quiet.clusters StrategyRegistry.builtin.strategies
          (Quiet.engine.chronicle Quiet.environment Quiet.request Quiet.clusters (World.start ()))
          report position strategy work teardown := by
  rcases Quiet.succeeds with ⟨report, reported⟩
  rcases run_earned Quiet.resolved (fun _ strategy_mem => strategy_mem) Quiet.environment
    Quiet.clusters (World.start ()) reported with ⟨position, strategy, work, teardown, earned⟩
  exact ⟨report, position, strategy, work, teardown, reported, earned⟩

end Engine

end VolumeMigration
