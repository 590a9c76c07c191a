import VolumeMigration.Proofs.Run.Heed
import VolumeMigration.Proofs.Run.Teardown
import VolumeMigration.Proofs.Strategy.Completion

/-!
# Cancelling a run

`Engine.StopsWhenCancelled` is what a run owes to its token. Once that is cancelled nothing is
created or looked at any more and no other candidate is evaluated, but what was created is still
deleted. The run then ends as cancelled, unless the candidate that was being executed had its pod
read as succeeded before; and it ends as cancelled only for a reason.
`Engine.run_stopsWhenCancelled` says so of every run whose candidates are strategies of this
library.
-/

namespace VolumeMigration

theorem StrategyRegistry.minds {candidates : List Strategy}
    (builtin : ∀ strategy ∈ candidates, strategy ∈ StrategyRegistry.builtin.strategies) :
    ∀ strategy ∈ candidates, strategy.Minds := by
  intro strategy strategy_mem
  rcases Transfers.of_builtin (builtin strategy strategy_mem) with ⟨transfer, transfers⟩
  exact transfers.minds

/-- A request never resolves to no candidates. -/
theorem StrategyRegistry.resolve_ne_nil {registry : StrategyRegistry} {overrides : List String}
    {candidates : List Strategy} (resolved : registry.resolve overrides = .ok candidates) :
    candidates ≠ [] := by
  rintro rfl
  unfold resolve at resolved
  split at resolved
  · split at resolved
    · cases resolved
    · next occupied => simp_all [isEmpty]
  · next named =>
      rcases overrides with _ | ⟨name, rest⟩
      · exact named rfl
      · simp only [choose, List.not_mem_nil, if_false] at resolved
        split at resolved
        · cases resolved
        · cases chosen : registry.choose [name] rest <;> simp [chosen, Except.map] at resolved

namespace Engine

variable {σ : Type}

/-- A report is about the candidate that was executed when the token was cancelled, and the pod of
that candidate was read as succeeded in the moments before. -/
def ReportsCompletion (engine : Engine) (request : Request) (clusters : ClusterSet ClusterHandle)
    (candidates : List Strategy) (earlier : List Moment) (state : RunState)
    (report : MigrationReport) : Prop :=
  ∃ position strategy, state = .executing position ∧ candidates[position]? = some strategy ∧
    report.strategy = strategy.name ∧ report.attempts.length = position + 1 ∧
    Completed (engine.context request clusters position) strategy
      (exchangesDuring (.executing position) earlier)

/-- What a run owes to its token, as its chronicle and its result tell. -/
structure StopsWhenCancelled (engine : Engine) (request : Request)
    (clusters : ClusterSet ClusterHandle) (candidates : List Strategy) (world : World σ)
    (chronicle : List Moment) (result : Except Failure MigrationReport) : Prop where
  /-- Once the token is cancelled, nothing is created or looked at and no evaluation begins. -/
  stops : ∀ earlier later, chronicle = earlier ++ later →
    cancelledAfter world.cancelled (earlier.map Moment.occurrence) = true →
      ∀ moment ∈ later, moment.occurrence.startsWork = false
  /-- What is created in an attempt is deleted in it all the same. -/
  deletes : ∀ state, (exchangesDuring state chronicle).filterMap Exchange.deletion? =
    (creations (exchangesDuring state chronicle)).reverse
  cancelledBefore : world.cancelled = true → result = .error (.migrationCancelled [])
  cancelledDuring : ∀ earlier moment later, chronicle = earlier ++ moment :: later →
    moment.occurrence = .cancellation →
      (∃ attempts, result = .error (.migrationCancelled attempts)) ∨
        ∃ report, result = .ok report ∧
          engine.ReportsCompletion request clusters candidates earlier moment.state report
  /-- A run ends as cancelled only if the token is cancelled or a cluster answered so. -/
  truthful : ∀ attempts, result = .error (.migrationCancelled attempts) →
    world.cancelled = true ∨ (∃ moment ∈ chronicle, moment.occurrence = .cancellation) ∨
      ∃ call ∈ calls chronicle, call.2.AnswersCancelled

section Run

variable {engine : Engine} {environment : Environment σ} {request : Request}
  {clusters : ClusterSet ClusterHandle} {candidates : List Strategy} {world final : World σ}
  {trials earlier : List (Trial σ)} {trial : Trial σ} {opening closing : List Occurrence}

/-- In a run whose last candidate succeeds, the token can be cancelled only while that candidate is
executed, and its pod is read as succeeded in time. -/
theorem Course.succeeded
    (course : engine.Course environment request clusters candidates world
      ((engine.run environment request clusters).run world).2 (earlier ++ [trial]) opening closing)
    (builtin : ∀ strategy ∈ candidates, strategy ∈ StrategyRegistry.builtin.strategies)
    (succeeded : trial.Succeeded) :
    ∃ leading execution ending state,
      engine.chronicle environment request clusters world =
          moments .pending leading ++ execution.map (Moment.mk (.executing earlier.length)) ++
            moments state ending ∧
        .cancellation ∉ leading ∧ .cancellation ∉ ending ∧
        InTime (Completed (engine.context request clusters earlier.length) trial.strategy) false
          execution := by
  have strategy_mem : trial.strategy ∈ candidates := course.inOrder.subset (by simp)
  rcases Transfers.of_builtin (builtin _ strategy_mem) with ⟨transfer, transfers⟩
  rcases course.last (StrategyRegistry.within_applicable builtin) with
    ⟨before, trace, leads, recorded, closes⟩
  have told : .executing earlier.length ∈ statesOf trace := by
    by_cases told : .executing earlier.length ∈ statesOf trace
    · exact told
    · exact absurd succeeded (recorded.untold told).1
  have follows := (leads.trans recorded.follows).trans closes
  rcases recorded.executing told with
    ⟨judged, started, ended, first, evaluation, starting, execution, last, rfl, evaluated,
      executed, last_notes⟩
  rcases executed.course with ⟨outcome, _, executing, outcome_eq⟩
  have inTime : InTime (Completed (engine.context request clusters earlier.length) trial.strategy)
      judged.cancelled execution := by
    rcases outcome with failure | done
    · rw [succeeded] at outcome_eq
      cases outcome_eq
    · exact transfers.completed_execute executing
  let leading := opening ++ before ++ (first ++ evaluation)
  have leading_follows : world.Follows started (leading ++ starting) :=
    (leads.trans evaluated.follows).trans executed.starts
  have chronicle_parts := executed.moments_between .pending leading (last ++ closing)
  refine ⟨leading ++ starting, execution, last ++ closing,
    RunState.pending.after (leading ++ (starting ++ execution)), ?_, ?_, ?_, ?_⟩
  · rw [← chronicle_parts, chronicle_eq follows]
    simp only [leading, List.append_assoc]
  · -- the pod was read in time, so that the execution began with a token that was not cancelled
    apply not_mem_of_uncancelled
    rw [← leading_follows.cancelled, executed.starts.cancelled,
      cancelledAfter_of_notes executed.noting.notes]
    exact inTime.running
  · rcases course.told with ⟨states, noting, -⟩
    intro cancellation_mem
    rcases List.mem_append.mp cancellation_mem with here | there
    · cases last_notes _ here
    · cases noting.notes _ there
  · rw [← inTime.running]
    exact inTime

/-- If the token is cancelled in a run whose last candidate succeeds, then while that candidate is
executed and after its pod was read as succeeded. -/
theorem Course.completed
    (course : engine.Course environment request clusters candidates world
      ((engine.run environment request clusters).run world).2 (earlier ++ [trial]) opening closing)
    (builtin : ∀ strategy ∈ candidates, strategy ∈ StrategyRegistry.builtin.strategies)
    (succeeded : trial.Succeeded) {before after : List Moment} {moment : Moment}
    (parted : engine.chronicle environment request clusters world = before ++ moment :: after)
    (cancels : moment.occurrence = .cancellation) :
    moment.state = .executing earlier.length ∧
      Completed (engine.context request clusters earlier.length) trial.strategy
        (exchangesDuring (.executing earlier.length) before) := by
  rcases course.succeeded builtin succeeded with
    ⟨leading, execution, ending, state, parts, not_leading, not_ending, inTime⟩
  have absent {trace : List Occurrence} {start : RunState}
      (uncancelled : .cancellation ∉ trace) : moment ∉ moments start trace := by
    intro moment_mem
    apply uncancelled
    rw [← cancels]
    exact occurrence_mem_of_moments moment_mem
  rw [parts] at parted
  rcases exists_middle parted (absent not_leading) (absent not_ending) with
    ⟨done, rest, middle, rfl⟩
  rcases List.map_eq_append_iff.mp middle with ⟨work, more, rfl, rfl, cut⟩
  rcases List.map_eq_cons_iff.mp cut with ⟨occurrence, others, rfl, rfl, -⟩
  dsimp only at cancels
  subst cancels
  refine ⟨rfl, ?_⟩
  rw [exchangesDuring_append, exchangesDuring_map]
  exact (inTime.before_cancellation fun _ more done => done.append_right more).append_left _

theorem Course.uncancelled
    (course : engine.Course environment request clusters candidates world final
      (earlier ++ [trial]) opening closing)
    (probing : ∀ strategy ∈ candidates, ∀ context,
      (strategy.applicable context).Within Call.isProbe)
    (uninterrupted : ¬trial.Interrupted) : .cancellation ∉ world.since final := by
  rcases course.last probing with ⟨before, trace, leads, recorded, closes⟩
  rcases course.told with ⟨states, noting, -⟩
  have follows := (leads.trans recorded.follows).trans closes
  rw [follows.since]
  apply not_mem_of_uncancelled
  rw [← follows.cancelled, closes.cancelled, cancelledAfter_of_notes noting.notes]
  cases cancelled : trial.after.cancelled with
  | false => rfl
  | true => exact absurd (.inr cancelled) uninterrupted

/-- A run in which the token is cancelled ends as cancelled, or with the report of the candidate
that was being executed. -/
theorem Course.cancelledDuring {result : Except Failure MigrationReport}
    (course : engine.Course environment request clusters candidates world
      ((engine.run environment request clusters).run world).2 trials opening closing)
    (builtin : ∀ strategy ∈ candidates, strategy ∈ StrategyRegistry.builtin.strategies)
    (occupied : candidates ≠ [])
    (ending : Ending candidates world trials (trials.map Trial.attempt) result)
    {before after : List Moment} {moment : Moment}
    (parted : engine.chronicle environment request clusters world = before ++ moment :: after)
    (cancels : moment.occurrence = .cancellation) :
    (∃ attempts, result = .error (.migrationCancelled attempts)) ∨
      ∃ report, result = .ok report ∧
        engine.ReportsCompletion request clusters candidates before moment.state report := by
  match result, ending with
  | .error (.migrationCancelled attempts), _ => exact .inl ⟨attempts, rfl⟩
  | .ok report, ⟨last, found, succeeded, name, told⟩ =>
      rcases List.getLast?_eq_some_iff.mp found with ⟨earlier, rfl⟩
      rcases course.completed builtin succeeded parted cancels with ⟨executing, completed⟩
      refine .inr ⟨report, rfl, earlier.length, last.strategy, executing, ?_, name, ?_, completed⟩
      · rcases course.inOrder with ⟨rest, rfl⟩
        simp
      · simp [told]
  | .error (.exhausted attempts), ⟨_, all, none_ended⟩ =>
      rcases List.eq_nil_or_concat trials with rfl | ⟨earlier, last, rfl⟩
      · exact absurd all.symm occupied
      · rw [List.concat_eq_append] at course none_ended
        have uninterrupted := (none_ended last (by simp)).2
        have moment_mem : moment ∈ engine.chronicle environment request clusters world := by
          rw [parted]
          exact List.mem_append_right _ List.mem_cons_self
        have cancellation_mem := occurrence_mem_of_moments moment_mem
        rw [cancels] at cancellation_mem
        exact absurd cancellation_mem
          (course.uncancelled (StrategyRegistry.within_applicable builtin) uninterrupted)

/-- A run with a token that is cancelled before tries nothing. -/
theorem Course.cancelledBefore {result : Except Failure MigrationReport}
    (course : engine.Course environment request clusters candidates world final trials opening
      closing)
    (probing : ∀ strategy ∈ candidates, ∀ context,
      (strategy.applicable context).Within Call.isProbe)
    (running : ∀ trial ∈ trials, trial.before.cancelled = false) (occupied : candidates ≠ [])
    (ending : Ending candidates world trials (trials.map Trial.attempt) result)
    (cancelled : world.cancelled = true) : result = .error (.migrationCancelled []) := by
  have untried : trials = [] := by
    rw [List.eq_nil_iff_forall_not_mem]
    intro trial trial_mem
    have trial_running := running trial trial_mem
    rcases List.append_of_mem trial_mem with ⟨earlier, later, rfl⟩
    rcases course.split probing with ⟨before, _, _, leads, -⟩
    rw [leads.cancelled, cancelled, cancelledAfter_true] at trial_running
    cases trial_running
  subst untried
  match result, ending with
  | .error (.migrationCancelled _), ⟨told, _⟩ => rw [told]; rfl
  | .ok _, ⟨_, found, _⟩ => cases found
  | .error (.exhausted _), ⟨_, all, _⟩ => exact absurd all.symm occupied

/-- What is created in a run is deleted while the run is in the same state. -/
theorem run_deletes (resolved : engine.registry.resolve request.strategies = .ok candidates)
    (builtin : ∀ strategy ∈ candidates, strategy ∈ StrategyRegistry.builtin.strategies)
    (environment : Environment σ) (clusters : ClusterSet ClusterHandle) (world : World σ)
    (state : RunState) :
    (exchangesDuring state (engine.chronicle environment request clusters world)).filterMap
        Exchange.deletion? =
      (creations (exchangesDuring state
        (engine.chronicle environment request clusters world))).reverse := by
  by_cases reads : ∀ exchange ∈ exchangesDuring state
      (engine.chronicle environment request clusters world), exchange.call.isRead = true
  · rw [creations_of_reads reads, List.reverse_nil, List.filterMap_eq_nil_iff]
    intro exchange exchange_mem
    exact Exchange.deletion?_of_isRead (reads exchange exchange_mem)
  · rcases Classical.not_forall.mp reads with ⟨exchange, other⟩
    rcases Classical.not_imp.mp other with ⟨exchange_mem, unread⟩
    rcases mem_exchangesDuring.mp exchange_mem with ⟨moment, moment_mem, rfl, found⟩
    have call_mem : (moment.state, exchange) ∈
        calls (engine.chronicle environment request clusters world) :=
      mem_calls.mpr ⟨moment, moment_mem, rfl, found⟩
    rcases (run_calls resolved (StrategyRegistry.within_applicable builtin) environment clusters
      world).1 _ call_mem with ⟨position, ⟨-, probe⟩ | executing⟩
    · exact absurd (Call.isRead_of_isProbe probe) unread
    · dsimp only at executing
      rcases exists_tornDown resolved builtin environment clusters world moment_mem executing with
        ⟨_, _, _, _, _, _, _, _, -, -, tornDown⟩
      rw [executing]
      exact tornDown.deletions

end Run

/-- Every run whose candidates are strategies of this library stops when its token is cancelled,
whenever that is. -/
theorem run_stopsWhenCancelled {engine : Engine} {request : Request} {candidates : List Strategy}
    (resolved : engine.registry.resolve request.strategies = .ok candidates)
    (builtin : ∀ strategy ∈ candidates, strategy ∈ StrategyRegistry.builtin.strategies)
    (environment : Environment σ) (clusters : ClusterSet ClusterHandle) (world : World σ) :
    engine.StopsWhenCancelled request clusters candidates world
      (engine.chronicle environment request clusters world)
      ((engine.run environment request clusters).run world).1 := by
  have probing := StrategyRegistry.within_applicable builtin
  have minds := StrategyRegistry.minds builtin
  have occupied := StrategyRegistry.resolve_ne_nil resolved
  rcases run_course resolved environment clusters world with
    ⟨trials, opening, closing, course, running, -, ending⟩
  refine ⟨?_, run_deletes resolved builtin environment clusters world,
    course.cancelledBefore probing running occupied ending, ?_, ?_⟩
  · intro earlier later parted cancelled moment moment_mem
    have heedful := course.heedful minds running
    rw [← map_occurrence_moments .pending (world.since _)] at heedful
    change Heedful _ ((engine.chronicle environment request clusters world).map _) at heedful
    rw [parted, List.map_append, heedful_append, cancelled] at heedful
    exact idle_of_heedful heedful.2 _ (List.mem_map_of_mem moment_mem)
  · intro earlier moment later parted cancels
    exact course.cancelledDuring builtin occupied ending parted cancels
  · intro attempts stopped
    rw [stopped] at ending
    rcases ending with ⟨-, ⟨-, cancelled⟩ | ⟨last, found, -, interrupted⟩⟩
    · exact .inl cancelled
    · have last_mem := List.mem_of_getLast? found
      exact (course.truthful probing minds last_mem interrupted).told .pending

/-- When the token is cancelled at the first look at a pod, nothing is begun any more and the run
ends as cancelled or with a report of what was completed before. -/
theorem run_stopsWhenCancelled_interrupted :
    ∃ earlier moment later,
      Quiet.engine.chronicle Quiet.interrupting Quiet.request Quiet.clusters (World.start ()) =
          earlier ++ moment :: later ∧
        moment.occurrence = .cancellation ∧
        Quiet.engine.StopsWhenCancelled Quiet.request Quiet.clusters
          StrategyRegistry.builtin.strategies (World.start ())
          (Quiet.engine.chronicle Quiet.interrupting Quiet.request Quiet.clusters (World.start ()))
          ((Quiet.engine.run Quiet.interrupting Quiet.request Quiet.clusters).run
            (World.start ())).1 := by
  rcases Quiet.interrupted with ⟨earlier, moment, later, parted, cancels⟩
  exact ⟨earlier, moment, later, parted, cancels, run_stopsWhenCancelled Quiet.resolved
    (fun _ strategy_mem => strategy_mem) Quiet.interrupting Quiet.clusters (World.start ())⟩

end Engine

end VolumeMigration
