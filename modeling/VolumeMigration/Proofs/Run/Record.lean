import VolumeMigration.Proofs.Run.Fallback

/-!
# What trials leave in the history

A trial leaves its evaluation and, if it was executed, its execution in the history, each in a
state of its own and with nothing but notes around (`Engine.Recorded`). Trials that follow each
other leave one record after the other (`Engine.Trials.split`), so that the calls of a run can be
told apart by the states in which they fall.
-/

namespace VolumeMigration

/-- Some occurrences are notes that tell of some states. -/
structure Noting (trace : List Occurrence) (states : List RunState) : Prop where
  notes : ∀ occurrence ∈ trace, occurrence.isNote = true
  states : statesOf trace = states

/-- A world that only took notes follows the earlier one by a trace of the notes' states. -/
theorem World.Notes.noting {σ : Type} {before after : World σ} {steps : List RunStep}
    {events : List MigrationEvent} (notes : before.Notes after steps events) :
    ∃ trace, before.Follows after trace ∧ Noting trace (steps.map RunStep.state) := by
  rcases notes.follows with ⟨trace, follows, all_notes, states⟩
  exact ⟨trace, follows, all_notes, states⟩

namespace Engine

variable {σ : Type}

/-- A strategy was evaluated, after notes that tell so. -/
structure Evaluated (environment : Environment σ) (strategy : Strategy) (position : Nat)
    (context : AttemptContext) (before judged : World σ) (answer : Except Failure Applicability)
    (opening evaluation : List Occurrence) : Prop where
  noting : Noting opening [.evaluating position]
  evaluated : ∃ opened : World σ, before.Follows opened opening ∧ opened.leftovers = [] ∧
    (strategy.applicable context).run environment opened = (answer, judged) ∧
    opened.Follows judged evaluation

/-- A strategy was executed, after notes that tell so. -/
structure Executed (environment : Environment σ) (strategy : Strategy) (position : Nat)
    (context : AttemptContext) (judged started ended : World σ) (attempt : AttemptResult)
    (starting execution : List Occurrence) : Prop where
  noting : Noting starting [.applicable position, .executing position]
  starts : judged.Follows started starting
  kept : started.leftovers = judged.leftovers
  executed : ∃ outcome, (strategy.execute context).run environment started = (outcome, ended) ∧
    attempt.outcome = outcomeOf outcome
  runs : started.Follows ended execution
  leftovers : attempt.teardownFailures = ended.leftovers

/-- What a trial leaves in the history. -/
inductive Recorded (environment : Environment σ) (strategy : Strategy) (position : Nat)
    (context : AttemptContext) (before : World σ) (attempt : AttemptResult) (after : World σ) :
    List Occurrence → Prop where
  | unexecuted {judged : World σ} {answer : Except Failure Applicability}
      {opening evaluation closing : List Occurrence} {state : RunState}
      (evaluated : Evaluated environment strategy position context before judged answer opening
        evaluation)
      (closes : judged.Follows after closing) (noting : Noting closing [state])
      (state_eq : state = .notApplicable position ∨ state = .failed position)
      (failed : attempt.outcome ≠ .succeeded)
      (interrupted : ∀ message, attempt.outcome = .failed .cancelled message →
        ∃ failure, answer = .error failure ∧ failure.kind = .cancelled)
      (clean : attempt.teardownFailures = []) :
      Recorded environment strategy position context before attempt after
        (opening ++ evaluation ++ closing)
  | executed {judged started ended : World σ}
      {opening evaluation starting execution closing : List Occurrence} {states : List RunState}
      (evaluated : Evaluated environment strategy position context before judged
        (.ok .applicable) opening evaluation)
      (executed : Executed environment strategy position context judged started ended attempt
        starting execution)
      (closes : ended.Follows after closing) (noting : Noting closing states)
      (states_eq : ∀ state ∈ states, state = .failed position) :
      Recorded environment strategy position context before attempt after
        (opening ++ evaluation ++ (starting ++ execution) ++ closing)

/-- A plan that runs takes its course, and the world follows by its trace and its leftovers. -/
theorem follows_of_run {α : Type} {environment : Environment σ} {plan : Plan α}
    {world after : World σ} {outcome : Except Failure α}
    (run : plan.run environment world = (outcome, after)) :
    ∃ trace leftovers, plan.Course world.cancelled trace leftovers outcome ∧
      world.Follows after trace ∧ after.leftovers = world.leftovers ++ leftovers := by
  simpa [run] using Plan.run_course environment plan world

theorem evaluated_of_run {environment : Environment σ} {strategy : Strategy} {position : Nat}
    {context : AttemptContext} {before opened judged : World σ}
    {answer : Except Failure Applicability} {events : List MigrationEvent}
    {message : String} {time : Duration}
    (opening : before.Notes opened [⟨.evaluating position, message, time⟩] events)
    (cleared : opened.leftovers = [])
    (evaluation : (strategy.applicable context).run environment opened = (answer, judged)) :
    ∃ notes trace, Evaluated environment strategy position context before judged answer notes
      trace := by
  rcases opening.noting with ⟨notes, opens, noting⟩
  rcases follows_of_run evaluation with ⟨trace, -, -, follows, -⟩
  exact ⟨notes, trace, noting, opened, opens, cleared, evaluation, follows⟩

/-- The trial of a candidate is recorded by some trace. -/
theorem Tried.recorded {engine : Engine} {environment : Environment σ} {strategy : Strategy}
    {position : Nat} {context : AttemptContext} {before after : World σ}
    {attempt : AttemptResult}
    (tried : engine.Tried environment strategy position context before attempt after) :
    ∃ trace, Recorded environment strategy position context before attempt after trace := by
  cases tried with
  | declined opening cleared evaluation closing =>
      rcases evaluated_of_run opening cleared evaluation with ⟨notes, trace, evaluated⟩
      rcases closing.noting with ⟨rest, closes, noting⟩
      exact ⟨_, .unexecuted evaluated closes noting (.inl rfl) (by simp) (by simp) rfl⟩
  | undetermined opening cleared evaluation closing =>
      rcases evaluated_of_run opening cleared evaluation with ⟨notes, trace, evaluated⟩
      rcases closing.noting with ⟨rest, closes, noting⟩
      refine ⟨_, .unexecuted evaluated closes noting (.inr rfl) (by simp) ?_ rfl⟩
      intro message interrupted
      exact ⟨_, rfl, (AttemptOutcome.failed.inj interrupted).1⟩
  | executed opening cleared evaluation starting kept execution closing =>
      rcases evaluated_of_run opening cleared evaluation with ⟨notes, trace, evaluated⟩
      rcases starting.noting with ⟨more, starts, told⟩
      rcases follows_of_run execution with ⟨work, -, -, follows, -⟩
      rcases closing.noting with ⟨rest, closes, noting⟩
      refine ⟨_, .executed evaluated ⟨told, starts, kept, ⟨_, execution, rfl⟩, follows, rfl⟩
        closes noting ?_⟩
      intro state state_mem
      simp only [List.map_map, List.mem_map] at state_mem
      rcases state_mem with ⟨message, -, rfl⟩
      rfl

/-! ## One record -/

section Record

variable {environment : Environment σ} {strategy : Strategy} {position : Nat}
  {context : AttemptContext} {before judged started ended after : World σ}
  {attempt : AttemptResult} {opening evaluation starting execution : List Occurrence}
  {answer : Except Failure Applicability}

theorem Evaluated.follows (evaluated : Evaluated environment strategy position context before
    judged answer opening evaluation) : before.Follows judged (opening ++ evaluation) := by
  rcases evaluated.evaluated with ⟨opened, opens, -, -, follows⟩
  exact opens.trans follows

theorem Executed.follows (executed : Executed environment strategy position context judged started
    ended attempt starting execution) : judged.Follows ended (starting ++ execution) :=
  executed.starts.trans executed.runs

theorem Evaluated.course (evaluated : Evaluated environment strategy position context before
    judged answer opening evaluation) :
    ∃ cancelled leftovers,
      (strategy.applicable context).Course cancelled evaluation leftovers answer ∧
        cancelled = before.cancelled ∧ judged.leftovers = leftovers := by
  rcases evaluated.evaluated with ⟨opened, opens, cleared, run, follows⟩
  rcases follows_of_run run with ⟨trace, leftovers, course, following, noted⟩
  rw [following.since.symm.trans follows.since] at course
  refine ⟨_, leftovers, course, ?_, by simpa [cleared] using noted⟩
  rw [opens.cancelled, cancelledAfter_of_notes evaluated.noting.notes]

theorem Executed.course (executed : Executed environment strategy position context judged started
    ended attempt starting execution) :
    ∃ outcome leftovers,
      (strategy.execute context).Course judged.cancelled execution leftovers outcome ∧
        attempt.outcome = outcomeOf outcome := by
  rcases executed.executed with ⟨outcome, run, outcome_eq⟩
  rcases follows_of_run run with ⟨trace, leftovers, course, following, -⟩
  rw [following.since.symm.trans executed.runs.since, executed.starts.cancelled,
    cancelledAfter_of_notes executed.noting.notes] at course
  exact ⟨outcome, leftovers, course, outcome_eq⟩

theorem Evaluated.states (evaluated : Evaluated environment strategy position context before
    judged answer opening evaluation) :
    statesOf (opening ++ evaluation) = [.evaluating position] := by
  rcases evaluated.course with ⟨_, _, course, -, -⟩
  rw [statesOf_append, evaluated.noting.states, statesOf_of_unstepped course.unstepped]
  rfl

theorem Executed.states (executed : Executed environment strategy position context judged started
    ended attempt starting execution) :
    statesOf (starting ++ execution) = [.applicable position, .executing position] := by
  rcases executed.course with ⟨_, _, course, -⟩
  rw [statesOf_append, executed.noting.states, statesOf_of_unstepped course.unstepped]
  rfl

/-- The calls of an evaluation are made while the run evaluates its candidate. -/
theorem Evaluated.calls (evaluated : Evaluated environment strategy position context before
    judged answer opening evaluation) (state : RunState) :
    calls (moments state (opening ++ evaluation)) =
      (exchanges evaluation).map (.evaluating position, ·) := by
  rcases evaluated.course with ⟨_, _, course, -, -⟩
  rw [moments_append, calls_append, calls_of_notes state evaluated.noting.notes,
    RunState.after_eq, evaluated.noting.states]
  exact calls_of_unstepped _ course.unstepped

/-- The calls of an execution are made while the run executes its candidate. -/
theorem Executed.calls (executed : Executed environment strategy position context judged started
    ended attempt starting execution) (state : RunState) :
    calls (moments state (starting ++ execution)) =
      (exchanges execution).map (.executing position, ·) := by
  rcases executed.course with ⟨_, _, course, -⟩
  rw [moments_append, calls_append, calls_of_notes state executed.noting.notes,
    RunState.after_eq, executed.noting.states]
  exact calls_of_unstepped _ course.unstepped

theorem Executed.moments (executed : Executed environment strategy position context judged started
    ended attempt starting execution) (state : RunState) :
    moments state (starting ++ execution) =
      VolumeMigration.moments state starting ++
        execution.map (Moment.mk (.executing position)) := by
  rcases executed.course with ⟨_, _, course, -⟩
  rw [moments_append, RunState.after_eq, executed.noting.states,
    moments_of_unstepped course.unstepped]
  rfl

theorem Executed.moments_between (executed : Executed environment strategy position context judged
    started ended attempt starting execution) (state : RunState)
    (earlier later : List Occurrence) :
    VolumeMigration.moments state (earlier ++ (starting ++ execution) ++ later) =
      VolumeMigration.moments state (earlier ++ starting) ++
          execution.map (Moment.mk (.executing position)) ++
        VolumeMigration.moments (state.after (earlier ++ (starting ++ execution))) later := by
  rw [moments_append, moments_append _ earlier, executed.moments, moments_append _ earlier starting]
  simp only [List.append_assoc]

end Record

theorem Recorded.follows {environment : Environment σ} {strategy : Strategy} {position : Nat}
    {context : AttemptContext} {before after : World σ} {attempt : AttemptResult}
    {trace : List Occurrence}
    (recorded : Recorded environment strategy position context before attempt after trace) :
    before.Follows after trace := by
  cases recorded with
  | unexecuted evaluated closes => exact evaluated.follows.trans closes
  | executed evaluated executed closes =>
      exact (evaluated.follows.trans executed.follows).trans closes

/-- Everything that a trial tells is about its own position. -/
theorem Recorded.states {environment : Environment σ} {strategy : Strategy} {position : Nat}
    {context : AttemptContext} {before after : World σ} {attempt : AttemptResult}
    {trace : List Occurrence}
    (recorded : Recorded environment strategy position context before attempt after trace) :
    ∀ state ∈ statesOf trace, state.position? = some position := by
  intro state state_mem
  cases recorded with
  | unexecuted evaluated closes noting state_eq =>
      rw [statesOf_append, evaluated.states, noting.states, List.mem_append, List.mem_singleton,
        List.mem_singleton] at state_mem
      rcases state_mem with rfl | rfl
      · rfl
      · rcases state_eq with rfl | rfl <;> rfl
  | executed evaluated executed closes noting states_eq =>
      rw [statesOf_append, statesOf_append, evaluated.states, executed.states, noting.states]
        at state_mem
      rcases List.mem_append.mp state_mem with told | told
      · simp only [List.cons_append, List.nil_append, List.mem_cons, List.not_mem_nil, or_false]
          at told
        rcases told with rfl | rfl | rfl <;> rfl
      · rw [states_eq state told]
        rfl

/-- A trial that tells of its execution was executed. -/
theorem Recorded.executing {environment : Environment σ} {strategy : Strategy} {position : Nat}
    {context : AttemptContext} {before after : World σ} {attempt : AttemptResult}
    {trace : List Occurrence}
    (recorded : Recorded environment strategy position context before attempt after trace)
    (told : .executing position ∈ statesOf trace) :
    ∃ judged started ended opening evaluation starting execution closing,
      trace = opening ++ evaluation ++ (starting ++ execution) ++ closing ∧
        Evaluated environment strategy position context before judged (.ok .applicable) opening
          evaluation ∧
        Executed environment strategy position context judged started ended attempt starting
          execution ∧
        ∀ occurrence ∈ closing, occurrence.isNote = true := by
  cases recorded with
  | unexecuted evaluated closes noting state_eq =>
      rw [statesOf_append, evaluated.states, noting.states, List.mem_append, List.mem_singleton,
        List.mem_singleton] at told
      rcases told with impossible | rfl
      · cases impossible
      · rcases state_eq with impossible | impossible <;> cases impossible
  | executed evaluated executed closes noting states_eq =>
      exact ⟨_, _, _, _, _, _, _, _, rfl, evaluated, executed, noting.notes⟩

/-- A trial that does not tell of its execution failed and left nothing over. -/
theorem Recorded.untold {environment : Environment σ} {strategy : Strategy} {position : Nat}
    {context : AttemptContext} {before after : World σ} {attempt : AttemptResult}
    {trace : List Occurrence}
    (recorded : Recorded environment strategy position context before attempt after trace)
    (untold : .executing position ∉ statesOf trace) :
    attempt.outcome ≠ .succeeded ∧ attempt.teardownFailures = [] := by
  cases recorded with
  | unexecuted _ _ _ _ failed _ clean => exact ⟨failed, clean⟩
  | executed _ executed =>
      rw [statesOf_append, statesOf_append, executed.states] at untold
      simp at untold

/-! ## Records that follow each other -/

/-- Some occurrences are about the candidates at the positions from one to before another: they
tell of no other positions, evaluate by probing, and never go back to an earlier position. -/
structure Ranging (first bound : Nat) (trace : List Occurrence) : Prop where
  states : ∀ state ∈ statesOf trace, ∃ position, state.position? = some position ∧
    first ≤ position ∧ position < bound
  called : ∀ state, ∀ call ∈ calls (moments state trace), ∃ position, first ≤ position ∧
    position < bound ∧
    (call.1 = .evaluating position ∧ call.2.call.isProbe = true ∨ call.1 = .executing position)
  ordered : ∀ state, (calls (moments state trace)).Pairwise fun earlier later =>
    ∀ position ∈ earlier.1.position?, ∀ other ∈ later.1.position?, position ≤ other

theorem position?_of_called {call : RunState × Exchange} {position : Nat}
    (kind : call.1 = .evaluating position ∧ call.2.call.isProbe = true ∨
      call.1 = .executing position) : call.1.position? = some position := by
  rcases kind with ⟨same, -⟩ | same
  · rw [same]
    rfl
  · rw [same]
    rfl

theorem Ranging.nil (position : Nat) : Ranging position position [] :=
  ⟨by simp [statesOf], by simp [moments, calls], by simp [moments, calls]⟩

theorem Ranging.append {first middle bound : Nat} {earlier later : List Occurrence}
    (left : Ranging first middle earlier) (right : Ranging middle bound later)
    (first_le : first ≤ middle) (middle_le : middle ≤ bound) :
    Ranging first bound (earlier ++ later) := by
  refine ⟨?_, ?_, ?_⟩
  · intro state state_mem
    rw [statesOf_append, List.mem_append] at state_mem
    rcases state_mem with told | told
    · rcases left.states state told with ⟨position, same, _, _⟩
      exact ⟨position, same, by omega, by omega⟩
    · rcases right.states state told with ⟨position, same, _, _⟩
      exact ⟨position, same, by omega, by omega⟩
  · intro state call call_mem
    rw [moments_append, calls_append, List.mem_append] at call_mem
    rcases call_mem with call_mem | call_mem
    · rcases left.called _ call call_mem with ⟨position, _, _, kind⟩
      exact ⟨position, by omega, by omega, kind⟩
    · rcases right.called _ call call_mem with ⟨position, _, _, kind⟩
      exact ⟨position, by omega, by omega, kind⟩
  · intro state
    rw [moments_append, calls_append, List.pairwise_append]
    refine ⟨left.ordered _, right.ordered _, ?_⟩
    intro call call_mem other other_mem position position_mem next next_mem
    rcases left.called _ call call_mem with ⟨here, _, _, kind⟩
    rcases right.called _ other other_mem with ⟨there, _, _, other_kind⟩
    rw [position?_of_called kind, Option.mem_some] at position_mem
    rw [position?_of_called other_kind, Option.mem_some] at next_mem
    omega

theorem Ranging.untold {first bound position : Nat} {trace : List Occurrence}
    (ranging : Ranging first bound trace) (outside : position < first ∨ bound ≤ position) :
    .executing position ∉ statesOf trace := by
  intro told
  rcases ranging.states _ told with ⟨other, same, _, _⟩
  cases same
  omega

/-- A trace that ranges over some positions makes no call in the execution of another one. -/
theorem Ranging.elsewhere {first bound position : Nat} {trace : List Occurrence}
    (ranging : Ranging first bound trace) (outside : position < first ∨ bound ≤ position)
    (state : RunState) :
    ∀ call ∈ calls (moments state trace), call.1 ≠ .executing position := by
  intro call call_mem executing
  rcases ranging.called state call call_mem with ⟨other, _, _, kind⟩
  have same := position?_of_called kind
  rw [executing] at same
  cases same
  omega

theorem Evaluated.called {environment : Environment σ} {strategy : Strategy} {position : Nat}
    {context : AttemptContext} {before judged : World σ} {answer : Except Failure Applicability}
    {opening evaluation : List Occurrence}
    (evaluated : Evaluated environment strategy position context before judged answer opening
      evaluation) (probing : (strategy.applicable context).Within Call.isProbe)
    (state : RunState) :
    ∀ call ∈ VolumeMigration.calls (moments state (opening ++ evaluation)),
      call.1 = .evaluating position ∧ call.2.call.isProbe = true := by
  rcases evaluated.course with ⟨_, _, course, -, -⟩
  rw [evaluated.calls]
  intro call call_mem
  rcases List.mem_map.mp call_mem with ⟨exchange, exchange_mem, rfl⟩
  exact ⟨rfl, (course.within probing).2 exchange exchange_mem⟩

section Record

variable {environment : Environment σ} {strategy : Strategy} {position : Nat}
  {context : AttemptContext} {before after : World σ} {attempt : AttemptResult}
  {trace : List Occurrence}

/-- The calls of a trial probe in its evaluation, or belong to its execution. -/
theorem Recorded.called
    (recorded : Recorded environment strategy position context before attempt after trace)
    (probing : (strategy.applicable context).Within Call.isProbe) (state : RunState) :
    ∀ call ∈ calls (moments state trace),
      call.1 = .evaluating position ∧ call.2.call.isProbe = true ∨
        call.1 = .executing position := by
  intro call call_mem
  cases recorded with
  | unexecuted evaluated closes noting =>
      rw [moments_append, calls_append, calls_of_notes _ noting.notes, List.append_nil]
        at call_mem
      exact .inl (evaluated.called probing state call call_mem)
  | executed evaluated executed closes noting =>
      rw [moments_append, calls_append, calls_of_notes _ noting.notes, List.append_nil,
        moments_append, calls_append, List.mem_append] at call_mem
      rcases call_mem with call_mem | call_mem
      · exact .inl (evaluated.called probing state call call_mem)
      · rw [executed.calls] at call_mem
        rcases List.mem_map.mp call_mem with ⟨exchange, -, rfl⟩
        exact .inr rfl

/-- The trace of a trial stays at the position of its candidate. -/
theorem Recorded.ranging
    (recorded : Recorded environment strategy position context before attempt after trace)
    (probing : (strategy.applicable context).Within Call.isProbe) :
    Ranging position (position + 1) trace := by
  have called := recorded.called probing
  refine ⟨?_, ?_, ?_⟩
  · intro state state_mem
    exact ⟨position, recorded.states state state_mem, by omega, by omega⟩
  · intro state call call_mem
    exact ⟨position, by omega, by omega, called state call call_mem⟩
  · intro state
    rw [List.pairwise_iff_forall_sublist]
    intro call other both here here_mem next next_mem
    have call_kind := called state call (both.subset (by simp))
    have other_kind := called state other (both.subset (by simp))
    rw [position?_of_called call_kind, Option.mem_some] at here_mem
    rw [position?_of_called other_kind, Option.mem_some] at next_mem
    omega

end Record

section Trials

variable {engine : Engine} {environment : Environment σ} {request : Request}
  {clusters : ClusterSet ClusterHandle} {position : Nat} {world last : World σ}
  {trials : List (Trial σ)}

/-- Trials that follow each other record a range of positions. -/
theorem Trials.ranging
    (linked : engine.Trials environment request clusters position world trials last)
    (probing : ∀ trial ∈ trials, ∀ context,
      (trial.strategy.applicable context).Within Call.isProbe) :
    ∃ trace, world.Follows last trace ∧ Ranging position (position + trials.length) trace := by
  induction linked with
  | nil position world => exact ⟨[], .refl world, .nil position⟩
  | @cons position trial rest last tried more ih =>
      rw [List.forall_mem_cons] at probing
      rcases tried.recorded with ⟨trace, recorded⟩
      rcases ih probing.2 with ⟨later, follows, ranging⟩
      refine ⟨trace ++ later, recorded.follows.trans follows, ?_⟩
      rw [List.length_cons, ← Nat.add_assoc, Nat.add_right_comm]
      exact (recorded.ranging (probing.1 _)).append ranging (by omega) (by omega)

/-- Linked trials are cut at one of them: the trials before it, the trial and the trials after it.
-/
theorem Trials.split {earlier later : List (Trial σ)} {trial : Trial σ}
    (linked : engine.Trials environment request clusters position world
      (earlier ++ trial :: later) last) :
    engine.Trials environment request clusters position world earlier trial.before ∧
      engine.Tried environment trial.strategy (position + earlier.length)
        (engine.context request clusters (position + earlier.length)) trial.before trial.attempt
        trial.after ∧
      engine.Trials environment request clusters (position + earlier.length + 1) trial.after
        later last := by
  induction earlier generalizing position world with
  | nil =>
      cases linked with
      | cons tried more => exact ⟨.nil _ _, tried, more⟩
  | cons first rest ih =>
      cases linked with
      | cons tried more =>
          rcases ih more with ⟨before, here, after⟩
          rw [show position + (first :: rest).length = position + 1 + rest.length by
            simp only [List.length_cons]; omega]
          exact ⟨.cons tried before, here, after⟩

theorem Trials.eq_of_nil
    (linked : engine.Trials environment request clusters position world [] last) :
    world = last := by
  cases linked
  rfl

end Trials

end Engine

end VolumeMigration
