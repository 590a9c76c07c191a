import VolumeMigration.Proofs.Plan.Order
import VolumeMigration.Proofs.Run.Record
import VolumeMigration.Proofs.Strategy.Transfers

/-!
# The executions in a run

`Engine.ExecutedAt` says where the execution of a candidate stands in the chronicle of a run and
what came of it, and `Engine.run_executedAt` that every candidate whose execution the chronicle
tells of was executed in this way.
-/

namespace VolumeMigration

theorem exchangesDuring_eq_nil {state : RunState} {chronicle : List Moment}
    (elsewhere : ∀ call ∈ calls chronicle, call.1 ≠ state) :
    exchangesDuring state chronicle = [] := by
  rw [exchangesDuring_eq, List.filterMap_eq_nil_iff]
  intro call call_mem
  simp [elsewhere call call_mem]

theorem exists_moment_of_told (state : RunState) {told : RunState} {trace : List Occurrence}
    (told_mem : told ∈ statesOf trace) :
    ∃ moment ∈ moments state trace, moment.state = told := by
  induction trace generalizing state with
  | nil => cases told_mem
  | cons occurrence rest ih =>
      change told ∈ statesOf ([occurrence] ++ rest) at told_mem
      rw [statesOf_append, List.mem_append] at told_mem
      rcases told_mem with here | later
      · refine ⟨_, List.mem_cons_self, ?_⟩
        cases step : occurrence.step? with
        | none => simp [statesOf, step] at here
        | some change => simpa [statesOf, step, RunState.next, eq_comm] using here
      · rcases ih (state.next occurrence) later with ⟨moment, moment_mem, same⟩
        exact ⟨moment, List.mem_cons_of_mem _ moment_mem, same⟩

/-- A moment in which a candidate is executed follows an occurrence that told so. -/
theorem executing_mem_statesOf {position : Nat} {trace : List Occurrence} {moment : Moment}
    (moment_mem : moment ∈ moments .pending trace)
    (executing : moment.state = .executing position) : .executing position ∈ statesOf trace := by
  have told := state_of_mem_moments moment_mem
  rw [executing] at told
  exact told.resolve_left (by simp)

/-- A list around one of its positions. -/
theorem exists_parts {α : Type} {items : List α} {position : Nat}
    (within : position < items.length) :
    ∃ earlier item later, items = earlier ++ item :: later ∧ earlier.length = position := by
  refine ⟨items.take position, items[position], items.drop (position + 1), ?_, ?_⟩
  · rw [← List.drop_eq_getElem_cons within, List.take_append_drop]
  · exact List.length_take_of_le (Nat.le_of_lt within)

namespace Engine

variable {σ : Type}

/-- The result of a run tells of all attempts. -/
theorem Ending.attemptsOf_eq {candidates : List Strategy} {opened : World σ}
    {trials : List (Trial σ)} {attempts : List AttemptResult}
    {result : Except Failure MigrationReport}
    (ending : Ending candidates opened trials attempts result) : attemptsOf result = attempts := by
  match result, ending with
  | .ok _, ⟨_, _, _, _, told⟩ => exact told
  | .error (.migrationCancelled _), ⟨told, _⟩ => exact told
  | .error (.exhausted _), ⟨told, _⟩ => exact told

/-- A run is an opening that tells of no state, some trials, and a closing. -/
structure Course (engine : Engine) (environment : Environment σ) (request : Request)
    (clusters : ClusterSet ClusterHandle) (candidates : List Strategy) (world final : World σ)
    (trials : List (Trial σ)) (opening closing : List Occurrence) : Prop where
  noting : Noting opening []
  told : ∃ states, Noting closing states ∧ ∀ state ∈ states, state.isTerminal = true
  linked : ∃ opened closed, world.Follows opened opening ∧
    engine.Trials environment request clusters 0 opened trials closed ∧
    closed.Follows final closing
  inOrder : trials.map Trial.strategy <+: candidates

/-- A candidate was executed in a run: its calls stand together in the chronicle, and no others
fall into the state of executing it. -/
structure ExecutedAt (engine : Engine) (environment : Environment σ) (request : Request)
    (clusters : ClusterSet ClusterHandle) (world : World σ) (chronicle : List Moment)
    (strategy : Strategy) (position : Nat) (attempt : AttemptResult) (started ended : World σ)
    (trace : List Occurrence) : Prop where
  placed : ∃ earlier later,
    chronicle = earlier ++ trace.map (Moment.mk (.executing position)) ++ later ∧
      world.Follows started (earlier.map Moment.occurrence) ∧
      exchangesDuring (.executing position) earlier = [] ∧
      exchangesDuring (.executing position) later = []
  executed : ∃ outcome,
    (strategy.execute (engine.context request clusters position)).run environment started =
        (outcome, ended) ∧
      attempt.outcome = outcomeOf outcome
  runs : started.Follows ended trace
  cleared : started.leftovers = []
  leftovers : attempt.teardownFailures = ended.leftovers

/-- The calls in the state of executing a candidate are those of its execution. -/
theorem ExecutedAt.exchanges_eq {engine : Engine} {environment : Environment σ}
    {request : Request} {clusters : ClusterSet ClusterHandle} {world : World σ}
    {chronicle : List Moment} {strategy : Strategy} {position : Nat} {attempt : AttemptResult}
    {started ended : World σ} {trace : List Occurrence}
    (executed : engine.ExecutedAt environment request clusters world chronicle strategy position
      attempt started ended trace) :
    exchangesDuring (.executing position) chronicle = exchanges trace := by
  rcases executed.placed with ⟨earlier, later, rfl, -, earlier_none, later_none⟩
  rw [exchangesDuring_append, exchangesDuring_append, earlier_none, later_none, List.nil_append,
    List.append_nil, exchangesDuring_map]

section Run

variable {engine : Engine} {environment : Environment σ} {request : Request}
  {clusters : ClusterSet ClusterHandle} {candidates : List Strategy} {world final : World σ}
  {trials : List (Trial σ)} {opening closing : List Occurrence}

theorem chronicle_eq {trace : List Occurrence}
    (follows : world.Follows ((engine.run environment request clusters).run world).2 trace) :
    engine.chronicle environment request clusters world = moments .pending trace := by
  rw [chronicle, follows.since]

/-- Every run with valid candidates has a course of trials that ends as its result tells. -/
theorem run_course (resolved : engine.registry.resolve request.strategies = .ok candidates)
    (environment : Environment σ) (clusters : ClusterSet ClusterHandle) (world : World σ) :
    ∃ trials opening closing,
      engine.Course environment request clusters candidates world
          ((engine.run environment request clusters).run world).2 trials opening closing ∧
        (∀ trial ∈ trials, trial.before.cancelled = false) ∧
        (∀ trial ∈ trials.dropLast, ¬trial.Succeeded ∧ ¬trial.Interrupted) ∧
        Ending candidates world trials (trials.map Trial.attempt)
          ((engine.run environment request clusters).run world).1 := by
  rcases run_walk resolved environment clusters world with ⟨opened, opening, walk⟩
  rcases walk.trials with ⟨trials, walked⟩
  rcases walked.linked with ⟨closed, steps, linked, closing, terminal⟩
  rcases opening.noting with ⟨first, opens, noting⟩
  rcases closing.noting with ⟨last, closes, told⟩
  refine ⟨trials, first, last, ⟨noting, ⟨_, told, ?_⟩, ⟨opened, closed, opens, linked, closes⟩,
    walked.inOrder⟩, walked.running, walked.goesOn,
    walked.ending.of_same_token opening.cancelled⟩
  simpa using terminal

/-- A trial in the middle of a run, with what the others leave in the history. -/
theorem Course.split {earlier later : List (Trial σ)} {trial : Trial σ}
    (course : engine.Course environment request clusters candidates world final
      (earlier ++ trial :: later) opening closing)
    (probing : ∀ strategy ∈ candidates, ∀ context,
      (strategy.applicable context).Within Call.isProbe) :
    ∃ before trace after, world.Follows trial.before (opening ++ before) ∧
      Ranging 0 earlier.length before ∧
      Recorded environment trial.strategy earlier.length
        (engine.context request clusters earlier.length) trial.before trial.attempt trial.after
        trace ∧
      Ranging (earlier.length + 1) (earlier.length + 1 + later.length) after ∧
      world.Follows final (opening ++ before ++ trace ++ after ++ closing) := by
  rcases course.linked with ⟨opened, closed, opens, linked, closes⟩
  rcases linked.split with ⟨first, tried, last⟩
  have probes : ∀ other ∈ earlier ++ trial :: later, ∀ context,
      (other.strategy.applicable context).Within Call.isProbe := by
    intro other other_mem
    exact probing _ (course.inOrder.subset (List.mem_map_of_mem other_mem))
  rcases first.ranging fun other other_mem => probes other (by simp [other_mem]) with
    ⟨before, leads, ranging⟩
  rcases last.ranging fun other other_mem => probes other (by simp [other_mem]) with
    ⟨after, follows, more⟩
  rw [Nat.zero_add] at tried ranging more
  rcases tried.recorded with ⟨trace, recorded⟩
  refine ⟨before, trace, after, opens.trans leads, ranging, recorded, more, ?_⟩
  exact (((opens.trans leads).trans recorded.follows).trans follows).trans closes

/-- The last trial of a run, with what comes before and after it. -/
theorem Course.last {earlier : List (Trial σ)} {trial : Trial σ}
    (course : engine.Course environment request clusters candidates world final
      (earlier ++ [trial]) opening closing)
    (probing : ∀ strategy ∈ candidates, ∀ context,
      (strategy.applicable context).Within Call.isProbe) :
    ∃ before trace, world.Follows trial.before (opening ++ before) ∧
      Recorded environment trial.strategy earlier.length
        (engine.context request clusters earlier.length) trial.before trial.attempt trial.after
        trace ∧
      trial.after.Follows final closing := by
  rcases course.linked with ⟨opened, closed, opens, linked, closes⟩
  rcases linked.split with ⟨first, tried, last⟩
  have probes : ∀ other ∈ earlier, ∀ context,
      (other.strategy.applicable context).Within Call.isProbe := by
    intro other other_mem
    refine probing _ (course.inOrder.subset (List.mem_map_of_mem ?_))
    exact List.mem_append_left _ other_mem
  rcases first.ranging probes with ⟨before, leads, -⟩
  rw [Nat.zero_add] at tried
  rcases tried.recorded with ⟨trace, recorded⟩
  rw [← last.eq_of_nil] at closes
  exact ⟨before, trace, opens.trans leads, recorded, closes⟩

/-- Only the trial of a candidate tells that it is executed. -/
theorem Course.told_of_executing {position bound : Nat} {before trace after : List Occurrence}
    (course : engine.Course environment request clusters candidates world final trials opening
      closing) (ranging : Ranging 0 position before) (more : Ranging (position + 1) bound after)
    (told : .executing position ∈ statesOf (opening ++ before ++ trace ++ after ++ closing)) :
    .executing position ∈ statesOf trace := by
  rcases course.told with ⟨states, noting, terminal⟩
  rw [statesOf_append, statesOf_append, statesOf_append, statesOf_append, course.noting.states,
    noting.states] at told
  simp only [List.nil_append, List.mem_append] at told
  -- the other trials are about other positions
  rcases told with ((told | told) | told) | told
  · exact absurd told (ranging.untold (.inr (Nat.le_refl position)))
  · exact told
  · exact absurd told (more.untold (.inl (Nat.lt_succ_self position)))
  · cases terminal _ told

/-- No call before the start of an execution falls into its state. -/
theorem Course.undisturbed_before {position : Nat} {strategy : Strategy} {context : AttemptContext}
    {before first evaluation starting execution : List Occurrence}
    {evaluating judged started ended : World σ} {answer : Except Failure Applicability}
    {attempt : AttemptResult}
    (course : engine.Course environment request clusters candidates world final trials opening
      closing) (ranging : Ranging 0 position before)
    (evaluated : Evaluated environment strategy position context evaluating judged answer first
      evaluation)
    (executed : Executed environment strategy position context judged started ended attempt
      starting execution)
    (probes : (strategy.applicable context).Within Call.isProbe) :
    exchangesDuring (.executing position)
      (moments .pending (opening ++ before ++ (first ++ evaluation) ++ starting)) = [] := by
  apply exchangesDuring_eq_nil
  intro call call_mem
  rw [moments_append, calls_append, calls_of_notes _ executed.noting.notes, List.append_nil,
    moments_append, calls_append, moments_append _ opening before, calls_append,
    calls_of_notes _ course.noting.notes, List.nil_append, List.mem_append] at call_mem
  rcases call_mem with earlier | evaluating
  · exact ranging.elsewhere (.inr (Nat.le_refl position)) _ call earlier
  · rw [(evaluated.called probes _ call evaluating).1]
    simp

/-- No call after the end of an execution falls into its state. -/
theorem Course.undisturbed_after {position bound : Nat} {last after : List Occurrence}
    (course : engine.Course environment request clusters candidates world final trials opening
      closing) (more : Ranging (position + 1) bound after)
    (last_notes : ∀ occurrence ∈ last, occurrence.isNote = true) (state : RunState) :
    exchangesDuring (.executing position) (moments state (last ++ after ++ closing)) = [] := by
  rcases course.told with ⟨states, noting, -⟩
  apply exchangesDuring_eq_nil
  intro call call_mem
  rw [moments_append, calls_append, calls_of_notes _ noting.notes, List.append_nil,
    moments_append, calls_append, calls_of_notes _ last_notes, List.nil_append] at call_mem
  exact more.elsewhere (.inl (Nat.lt_succ_self position)) _ call call_mem

/-- A candidate of a course whose execution the chronicle tells of was executed. -/
theorem Course.executedAt {earlier later : List (Trial σ)} {trial : Trial σ}
    (course : engine.Course environment request clusters candidates world
      ((engine.run environment request clusters).run world).2 (earlier ++ trial :: later) opening
      closing)
    (probing : ∀ strategy ∈ candidates, ∀ context,
      (strategy.applicable context).Within Call.isProbe)
    {moment : Moment}
    (moment_mem : moment ∈ engine.chronicle environment request clusters world)
    (executing : moment.state = .executing earlier.length) :
    ∃ started ended trace,
      engine.ExecutedAt environment request clusters world
        (engine.chronicle environment request clusters world) trial.strategy earlier.length
        trial.attempt started ended trace := by
  rcases course.split probing with
    ⟨before, trace, after, leads, ranging, recorded, more, follows⟩
  rw [chronicle_eq follows] at moment_mem ⊢
  have told := course.told_of_executing ranging more (executing_mem_statesOf moment_mem executing)
  rcases recorded.executing told with
    ⟨judged, started, ended, first, evaluation, starting, execution, last, rfl, evaluated,
      executed, last_notes⟩
  have probes := probing trial.strategy (course.inOrder.subset (by simp))
    (engine.context request clusters earlier.length)
  have regroup : opening ++ before ++ (first ++ evaluation ++ (starting ++ execution) ++ last) ++
      after ++ closing = opening ++ before ++ (first ++ evaluation) ++ (starting ++ execution) ++
        (last ++ after ++ closing) := by
    simp only [List.append_assoc]
  rw [regroup]
  refine ⟨started, ended, execution, ⟨_, _, executed.moments_between .pending _ _, ?_,
    course.undisturbed_before ranging evaluated executed probes,
    course.undisturbed_after more last_notes _⟩, executed.executed, executed.runs, ?_,
    executed.leftovers⟩
  · rw [map_occurrence_moments]
    exact (leads.trans evaluated.follows).trans executed.starts
  · rcases evaluated.course with ⟨_, leftovers, ended, -, noted⟩
    rw [executed.kept, noted, (ended.within probes).1]

theorem Course.bound
    (course : engine.Course environment request clusters candidates world
      ((engine.run environment request clusters).run world).2 trials opening closing)
    (probing : ∀ strategy ∈ candidates, ∀ context,
      (strategy.applicable context).Within Call.isProbe) :
    ∃ trace, engine.chronicle environment request clusters world =
        moments .pending (opening ++ trace ++ closing) ∧
      Ranging 0 trials.length trace := by
  rcases course.linked with ⟨opened, closed, opens, linked, closes⟩
  have probes : ∀ trial ∈ trials, ∀ context,
      (trial.strategy.applicable context).Within Call.isProbe := by
    intro trial trial_mem
    exact probing _ (course.inOrder.subset (List.mem_map_of_mem trial_mem))
  rcases linked.ranging probes with ⟨trace, follows, ranging⟩
  rw [Nat.zero_add] at ranging
  exact ⟨trace, chronicle_eq ((opens.trans follows).trans closes), ranging⟩

theorem Course.calls_eq {trace : List Occurrence}
    (course : engine.Course environment request clusters candidates world final trials opening
      closing) :
    calls (moments .pending (opening ++ trace ++ closing)) = calls (moments .pending trace) := by
  rcases course.told with ⟨states, noting, -⟩
  rw [moments_append, moments_append, calls_append, calls_append,
    calls_of_notes _ course.noting.notes, calls_of_notes _ noting.notes, List.nil_append,
    List.append_nil, RunState.after_eq, course.noting.states]
  rfl

/-- Every candidate whose execution the chronicle tells of was executed, and its attempt is told in
the result. -/
theorem run_executedAt (resolved : engine.registry.resolve request.strategies = .ok candidates)
    (probing : ∀ strategy ∈ candidates, ∀ context,
      (strategy.applicable context).Within Call.isProbe)
    (environment : Environment σ) (clusters : ClusterSet ClusterHandle) (world : World σ)
    {position : Nat} {moment : Moment}
    (moment_mem : moment ∈ engine.chronicle environment request clusters world)
    (executing : moment.state = .executing position) :
    ∃ strategy attempt started ended trace,
      candidates[position]? = some strategy ∧
        (attemptsOf ((engine.run environment request clusters).run world).1)[position]? =
          some attempt ∧
        engine.ExecutedAt environment request clusters world
          (engine.chronicle environment request clusters world) strategy position attempt started
          ended trace := by
  rcases run_course resolved environment clusters world with
    ⟨trials, opening, closing, course, -, -, ending⟩
  have within : position < trials.length := by
    rcases course.bound probing with ⟨trace, chronicle_eq, ranging⟩
    rcases course.told with ⟨states, noting, terminal⟩
    rw [chronicle_eq] at moment_mem
    have told := executing_mem_statesOf moment_mem executing
    rw [statesOf_append, statesOf_append, course.noting.states, noting.states, List.nil_append,
      List.mem_append] at told
    rcases told with told | told
    · rcases ranging.states _ told with ⟨other, same, _, bound⟩
      cases same
      exact bound
    · cases terminal _ told
  rcases exists_parts within with ⟨earlier, trial, later, rfl, rfl⟩
  rcases course.executedAt probing moment_mem executing with ⟨started, ended, trace, executed⟩
  refine ⟨trial.strategy, trial.attempt, started, ended, trace, ?_, ?_, executed⟩
  · rcases course.inOrder with ⟨rest, rfl⟩
    simp
  · rw [ending.attemptsOf_eq]
    simp

/-- An attempt whose execution the chronicle does not tell of failed and left nothing over. -/
theorem run_unexecuted (resolved : engine.registry.resolve request.strategies = .ok candidates)
    (probing : ∀ strategy ∈ candidates, ∀ context,
      (strategy.applicable context).Within Call.isProbe)
    (environment : Environment σ) (clusters : ClusterSet ClusterHandle) (world : World σ)
    {position : Nat} {attempt : AttemptResult}
    (made : (attemptsOf ((engine.run environment request clusters).run world).1)[position]? =
      some attempt)
    (unexecuted : ∀ moment ∈ engine.chronicle environment request clusters world,
      moment.state ≠ .executing position) :
    attempt.outcome ≠ .succeeded ∧ attempt.teardownFailures = [] := by
  rcases run_course resolved environment clusters world with
    ⟨trials, opening, closing, course, -, -, ending⟩
  rw [ending.attemptsOf_eq] at made
  have within : position < trials.length := by
    simpa using (List.getElem?_eq_some_iff.mp made).1
  rcases exists_parts within with ⟨earlier, trial, later, rfl, rfl⟩
  rcases course.split probing with ⟨before, trace, after, -, -, recorded, -, follows⟩
  have same : trial.attempt = attempt := by
    simpa using made
  subst same
  apply recorded.untold
  intro told
  have run_told : .executing earlier.length ∈
      statesOf (opening ++ before ++ trace ++ after ++ closing) := by
    simp [told]
  rcases exists_moment_of_told .pending run_told with ⟨moment, moment_mem, state_eq⟩
  rw [← chronicle_eq follows] at moment_mem
  exact unexecuted moment moment_mem state_eq

/-- The calls of a run probe while a candidate is evaluated or belong to an execution, and none
follows a call about a later candidate. -/
theorem run_calls (resolved : engine.registry.resolve request.strategies = .ok candidates)
    (probing : ∀ strategy ∈ candidates, ∀ context,
      (strategy.applicable context).Within Call.isProbe)
    (environment : Environment σ) (clusters : ClusterSet ClusterHandle) (world : World σ) :
    (∀ call ∈ calls (engine.chronicle environment request clusters world), ∃ position,
      call.1 = .evaluating position ∧ call.2.call.isProbe = true ∨ call.1 = .executing position) ∧
      (calls (engine.chronicle environment request clusters world)).Pairwise
        fun earlier later =>
          ∀ position ∈ earlier.1.position?, ∀ other ∈ later.1.position?, position ≤ other := by
  rcases run_course resolved environment clusters world with
    ⟨trials, opening, closing, course, -, -, -⟩
  rcases course.bound probing with ⟨trace, chronicle_eq, ranging⟩
  rw [chronicle_eq, course.calls_eq]
  refine ⟨?_, ranging.ordered _⟩
  intro call call_mem
  rcases ranging.called _ call call_mem with ⟨position, _, _, kind⟩
  exact ⟨position, kind⟩

end Run

end Engine

end VolumeMigration
