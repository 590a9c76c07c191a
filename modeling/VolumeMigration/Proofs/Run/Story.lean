import VolumeMigration.Proofs.Run.Publishing
import VolumeMigration.Proofs.Run.Scenario

/-!
# Three records, one story

The attempts in the result of a run, the events that it emits and the steps from state to state are
written by separate statements. An `Episode` is what there is to tell of one candidate; its
attempt, its events and its steps are three views of it. `Engine.run_tellsStory` says that there is
one story for every run, of which all three records are views: its episodes in order, and then the
one state in which the run ends.
-/

namespace VolumeMigration

/-- What became of a candidate. -/
inductive Fate where
  | declined (reason : String)
  | undetermined (failure : Failure)
  | executed (outcome : Except Failure Unit) (leftovers : List String)

/-- What there is to tell of a candidate that was tried, with the times at which this began, at
which it was known whether the candidate applies, and at which it ended. -/
structure Episode where
  strategy : String
  attemptId : String
  begun : Duration
  judged : Duration
  ended : Duration
  fate : Fate

namespace Episode

open Engine

/-- How an attempt ended, as far as its report tells. -/
def outcome (episode : Episode) : AttemptOutcome :=
  match episode.fate with
  | .declined reason => .notApplicable reason
  | .undetermined failure => .failed failure.kind failure.message
  | .executed outcome _ => outcomeOf outcome

/-- What an episode could not delete. -/
def leftovers (episode : Episode) : List String :=
  match episode.fate with
  | .executed _ leftovers => leftovers
  | _ => []

/-- The attempt that an episode is reported as. -/
def attempt (episode : Episode) : AttemptResult :=
  { strategy := episode.strategy
    outcome := episode.outcome
    elapsed := episode.ended - episode.begun
    teardownFailures := episode.leftovers }

/-- The events of an episode at a position, in a run that started at an instant. -/
def events (episode : Episode) (startedAt : Instant) (position : Nat) : List MigrationEvent :=
  let judged := startedAt.after episode.judged
  let strategy := episode.strategy
  .evaluationStarted (startedAt.after episode.begun) strategy position ::
    match episode.fate with
    | .declined reason => [.applicabilityDetermined judged strategy false (some reason)]
    | .undetermined failure =>
        [.applicabilityDetermined judged strategy false (some failure.message)]
    | .executed outcome leftovers =>
        [.applicabilityDetermined judged strategy true none,
          .executionStarted judged strategy episode.attemptId,
          .executionFinished (startedAt.after episode.ended) strategy episode.attemptId
            (errorOf outcome).isNone (errorOf outcome) leftovers
            (Duration.wholeMillis (episode.ended - episode.begun))]

/-- The steps of an episode at a position. -/
def steps (episode : Episode) (position : Nat) : List RunStep :=
  ⟨.evaluating position, "Evaluating " ++ episode.strategy, episode.begun⟩ ::
    match episode.fate with
    | .declined reason => [⟨.notApplicable position, reason, episode.judged⟩]
    | .undetermined failure => [⟨.failed position, failure.message, episode.judged⟩]
    | .executed outcome _ =>
        [⟨.applicable position, episode.strategy ++ " is applicable", episode.judged⟩,
          ⟨.executing position,
            "Executing " ++ episode.strategy ++ " (attempt " ++ episode.attemptId ++ ")",
            episode.judged⟩] ++
          (errorOf outcome).toList.map fun message => ⟨.failed position, message, episode.ended⟩

theorem steps_unfinished (episode : Episode) (position : Nat) :
    ∀ step ∈ episode.steps position, step.state.isTerminal = false := by
  rcases episode with ⟨strategy, attemptId, begun, judged, ended, _ | _ | ⟨outcome, leftovers⟩⟩
  · simp [steps, RunState.isTerminal]
  · simp [steps, RunState.isTerminal]
  · cases outcome <;> simp [steps, RunState.isTerminal, errorOf]

end Episode

/-- The events of episodes that follow each other, the first one at a position. -/
def eventsOf (startedAt : Instant) : Nat → List Episode → List MigrationEvent
  | _, [] => []
  | position, episode :: rest =>
      episode.events startedAt position ++ eventsOf startedAt (position + 1) rest

/-- The changes of state that episodes make, the first of which is about a position. -/
def stepsOf : Nat → List Episode → List RunStep
  | _, [] => []
  | position, episode :: rest => episode.steps position ++ stepsOf (position + 1) rest

theorem stepsOf_unfinished (position : Nat) (story : List Episode) :
    ∀ step ∈ stepsOf position story, step.state.isTerminal = false := by
  induction story generalizing position with
  | nil => simp [stepsOf]
  | cons episode rest ih =>
      intro step step_mem
      rcases List.mem_append.mp step_mem with here | later
      · exact episode.steps_unfinished position step here
      · exact ih (position + 1) step later

/-- Between two worlds some steps and some events were told. -/
structure World.Tells {σ : Type} (before after : World σ) (steps : List RunStep)
    (events : List MigrationEvent) : Prop where
  steps : after.steps = before.steps ++ steps
  events : after.events = before.events ++ events

namespace World

variable {σ : Type}

theorem Tells.trans {before middle after : World σ} {steps moreSteps : List RunStep}
    {events moreEvents : List MigrationEvent} (first : before.Tells middle steps events)
    (second : middle.Tells after moreSteps moreEvents) :
    before.Tells after (steps ++ moreSteps) (events ++ moreEvents) := by
  constructor
  · rw [second.steps, first.steps, List.append_assoc]
  · rw [second.events, first.events, List.append_assoc]

theorem Notes.tells {before after : World σ} {steps : List RunStep}
    {events : List MigrationEvent} (notes : before.Notes after steps events) :
    before.Tells after steps events := by
  rcases notes.history with ⟨trace, history, -, rfl, rfl⟩
  constructor
  · rw [steps_eq, steps_eq, history, List.filterMap_append]
  · rw [events_eq, events_eq, history, List.filterMap_append]

/-- Plans tell nothing by themselves. -/
theorem tells_of_run {α : Type} {environment : Environment σ} {plan : Plan α}
    {before after : World σ} {outcome : Except Failure α}
    (run : plan.run environment before = (outcome, after)) : before.Tells after [] [] := by
  rcases Plan.run_course environment plan before with ⟨trace, _, course, follows, -⟩
  rw [run] at follows
  have silent : trace.filterMap Occurrence.event? = [] := by
    apply List.filterMap_eq_nil_iff.mpr
    intro occurrence occurrence_mem
    have planned := course.not_isOfRun occurrence occurrence_mem
    cases occurrence <;> simp_all [Occurrence.isOfRun, Occurrence.event?]
  have unstepped : trace.filterMap Occurrence.step? = [] :=
    List.filterMap_eq_nil_iff.mpr course.unstepped
  constructor
  · rw [steps_eq, steps_eq, follows.history, List.filterMap_append, unstepped]
  · rw [events_eq, events_eq, follows.history, List.filterMap_append, silent]

end World

namespace Engine

variable {σ : Type}

/-- What a candidate did in an episode: its evaluation answered as the episode tells, and if it
applied, its execution ended so. -/
inductive Lived (environment : Environment σ) (strategy : Strategy) (context : AttemptContext) :
    Episode → Prop where
  | declined {opened judged : World σ} {reason : String}
      (evaluation : (strategy.applicable context).run environment opened =
        (.ok (.notApplicable reason), judged)) :
      Lived environment strategy context
        ⟨strategy.name, context.attemptId, opened.clock, judged.clock, judged.clock,
          .declined reason⟩
  | undetermined {opened judged : World σ} {failure : Failure}
      (evaluation : (strategy.applicable context).run environment opened =
        (.error failure, judged)) :
      Lived environment strategy context
        ⟨strategy.name, context.attemptId, opened.clock, judged.clock, judged.clock,
          .undetermined failure⟩
  | executed {opened judged started ended : World σ} {outcome : Except Failure Unit}
      (evaluation : (strategy.applicable context).run environment opened =
        (.ok .applicable, judged))
      (execution : (strategy.execute context).run environment started = (outcome, ended)) :
      Lived environment strategy context
        ⟨strategy.name, context.attemptId, opened.clock, judged.clock, ended.clock,
          .executed outcome ended.leftovers⟩

/-- How a run ends, as its result and its last state tell. -/
inductive Concludes : Except Failure MigrationReport → RunState → Prop where
  | succeeded (report : MigrationReport) : Concludes (.ok report) .succeeded
  | cancelled (attempts : List AttemptResult) :
      Concludes (.error (.migrationCancelled attempts)) .cancelled
  | exhausted (attempts : List AttemptResult) :
      Concludes (.error (.exhausted attempts)) .exhaustedFailed

/-- The trial of a candidate is an episode that the candidate lived, and its notes tell it. -/
theorem Tried.episode {engine : Engine} {environment : Environment σ} {strategy : Strategy}
    {position : Nat} {context : AttemptContext} {before after : World σ}
    {attempt : AttemptResult}
    (tried : engine.Tried environment strategy position context before attempt after) :
    ∃ episode, Lived environment strategy context episode ∧ attempt = episode.attempt ∧
      before.Tells after (episode.steps position) (episode.events engine.startedAt position) := by
  cases tried with
  | declined opening cleared evaluation closing =>
      refine ⟨_, .declined evaluation, ?_, ?_⟩
      · rw [closing.clock, ← opening.clock]
        rfl
      · have told := opening.tells.trans ((World.tells_of_run evaluation).trans closing.tells)
        rw [timeIn, ← opening.clock] at told
        exact told
  | undetermined opening cleared evaluation closing =>
      refine ⟨_, .undetermined evaluation, ?_, ?_⟩
      · rw [closing.clock, ← opening.clock]
        rfl
      · have told := opening.tells.trans ((World.tells_of_run evaluation).trans closing.tells)
        rw [timeIn, ← opening.clock] at told
        exact told
  | executed opening cleared evaluation starting kept execution closing =>
      refine ⟨_, .executed evaluation execution, ?_, ?_⟩
      · rw [closing.clock, ← opening.clock]
        rfl
      · have told := opening.tells.trans ((World.tells_of_run evaluation).trans
          (starting.tells.trans ((World.tells_of_run execution).trans closing.tells)))
        rw [timeIn, ← opening.clock] at told
        exact told

/-- From a world to another a story was told of the first of some candidates, and after it the
step in which the run ends. -/
structure Told (engine : Engine) (environment : Environment σ) (request : Request)
    (clusters : ClusterSet ClusterHandle) (candidates : List Strategy) (position : Nat)
    (before after : World σ) (attempts : List AttemptResult) (story : List Episode)
    (terminal : RunStep) : Prop where
  attempts : attempts = story.map Episode.attempt
  tells : before.Tells after (stepsOf position story ++ [terminal])
    (eventsOf engine.startedAt position story)
  lived : ∀ index episode, story[index]? = some episode →
    ∃ strategy, candidates[index]? = some strategy ∧
      Lived environment strategy (engine.context request clusters (position + index)) episode

section Told

variable {engine : Engine} {environment : Environment σ} {request : Request}
  {clusters : ClusterSet ClusterHandle} {strategy : Strategy} {candidates rest : List Strategy}
  {position : Nat} {before middle after : World σ} {attempt : AttemptResult}
  {attempts : List AttemptResult} {story : List Episode} {terminal : RunStep}

theorem told_nil (closing : before.Notes after [terminal] []) :
    engine.Told environment request clusters candidates position before after [] [] terminal :=
  ⟨rfl, closing.tells, by simp⟩

/-- A trial before a told story makes it one episode longer. -/
theorem Told.cons
    (tried : engine.Tried environment strategy position (engine.context request clusters position)
      before attempt middle)
    (told : engine.Told environment request clusters rest (position + 1) middle after attempts
      story terminal) :
    ∃ episode, engine.Told environment request clusters (strategy :: rest) position before after
      (attempt :: attempts) (episode :: story) terminal := by
  rcases tried.episode with ⟨episode, lived, rfl, tells⟩
  refine ⟨episode, ?_, ?_, ?_⟩
  · rw [told.attempts, List.map_cons]
  · have both := tells.trans told.tells
    rw [← List.append_assoc] at both
    exact both
  · rintro (_ | index) other found
    · cases found
      exact ⟨strategy, rfl, lived⟩
    · rcases told.lived index other found with ⟨candidate, candidate_at, candidate_lived⟩
      rw [Nat.add_right_comm] at candidate_lived
      exact ⟨candidate, candidate_at, candidate_lived⟩

/-- Every walk of candidates is told by a story that concludes its result. -/
theorem Walk.told {made : List AttemptResult} {result : Except Failure MigrationReport}
    (walk : engine.Walk environment request clusters candidates made before result after) :
    ∃ attempts story terminal, attemptsOf result = made ++ attempts ∧
      Concludes result terminal.state ∧
      engine.Told environment request clusters candidates made.length before after attempts story
        terminal := by
  -- on the walk: the position of the next episode is the number of the attempts made before
  induction walk with
  | exhausted closing =>
      exact ⟨[], [], _, (List.append_nil _).symm, .exhausted _, told_nil closing⟩
  | stoppedBefore cancelled closing =>
      exact ⟨[], [], _, (List.append_nil _).symm, .cancelled _, told_nil closing⟩
  | succeeded running trying success closing =>
      rcases Told.cons trying (told_nil closing) with ⟨episode, told⟩
      exact ⟨_, _, _, rfl, .succeeded _, told⟩
  | stoppedAfter running trying failure interrupted closing =>
      rcases Told.cons trying (told_nil closing) with ⟨episode, told⟩
      exact ⟨_, _, _, rfl, .cancelled _, told⟩
  | next running trying failure uninterrupted stillRunning walk ih =>
      rcases ih with ⟨attempts, story, terminal, attempts_eq, concludes, told⟩
      rw [List.length_append] at told
      rcases told.cons trying with ⟨episode, told⟩
      refine ⟨_, _, terminal, ?_, concludes, told⟩
      rw [attempts_eq, List.append_assoc, List.singleton_append]

end Told

/-- The records of a run are views of one story, with the step in which the run ends. -/
structure TellsStory (engine : Engine) (environment : Environment σ) (request : Request)
    (clusters : ClusterSet ClusterHandle) (candidates : List Strategy) (world : World σ)
    (result : Except Failure MigrationReport) (final : World σ) (story : List Episode)
    (terminal : RunStep) : Prop where
  attempts : attemptsOf result = story.map Episode.attempt
  events : final.events = world.events ++
    .candidatesResolved (engine.timeIn world) (candidates.map Strategy.name) ::
      eventsOf engine.startedAt 0 story
  steps : final.steps = world.steps ++ stepsOf 0 story ++ [terminal]
  concludes : Concludes result terminal.state
  unfinished : ∀ step ∈ stepsOf 0 story, step.state.isTerminal = false
  lived : ∀ position episode, story[position]? = some episode →
    ∃ strategy, candidates[position]? = some strategy ∧
      Lived environment strategy (engine.context request clusters position) episode

/-- The attempts, the events and the steps of every run tell one story, in which the publisher has
no say. -/
theorem run_tellsStory {engine : Engine} {request : Request} {candidates : List Strategy}
    (resolved : engine.registry.resolve request.strategies = .ok candidates)
    (environment : Environment σ) (clusters : ClusterSet ClusterHandle) (world : World σ) :
    let run := (engine.run environment request clusters).run world
    (∃ story terminal, engine.TellsStory environment request clusters candidates world run.1 run.2
        story terminal) ∧
      ∀ publisher,
        let other := ((engine.withPublisher publisher).run environment request clusters).run world
        other.1 = run.1 ∧ other.2.events = run.2.events ∧ other.2.steps = run.2.steps ∧
          other.2.Agrees run.2 := by
  intro run
  constructor
  · rcases run_walk resolved environment clusters world with ⟨opened, opening, walk⟩
    -- what is told before the walk is the list of the candidates, and no step
    rcases walk.told with ⟨attempts, story, terminal, attempts_eq, concludes, told⟩
    have tells := opening.tells.trans told.tells
    refine ⟨story, terminal, ?_, tells.events, ?_, concludes, stepsOf_unfinished 0 story, ?_⟩
    · rw [attempts_eq, told.attempts, List.nil_append]
    · rw [tells.steps, List.nil_append, List.append_assoc]
      rfl
    · intro position episode found
      have lived := told.lived position episode found
      rwa [List.length_nil, Nat.zero_add] at lived
  · intro publisher other
    rcases alike_run engine publisher environment request clusters (World.Agrees.refl world) with
      ⟨same, agrees⟩
    exact ⟨same, agrees.events, agrees.steps, agrees⟩

theorem run_tellsStory_quiet :
    let run := (Quiet.engine.run Quiet.environment Quiet.request Quiet.clusters).run
      (World.start ())
    ∃ story terminal,
      Quiet.engine.TellsStory Quiet.environment Quiet.request Quiet.clusters
        StrategyRegistry.builtin.strategies (World.start ()) run.1 run.2 story terminal :=
  (run_tellsStory Quiet.resolved Quiet.environment Quiet.clusters (World.start ())).1

end Engine

end VolumeMigration
