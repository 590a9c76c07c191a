import VolumeMigration.Proofs.Run.Executions
import VolumeMigration.Proofs.Strategy.Heed

/-!
# Runs mind the token

Every trial starts with a token that is not cancelled, and if its strategy minds the token then so
does the whole trial. Between trials a run only takes notes, and it starts no other trial once the
token is cancelled: `Engine.Course.heedful` and `Engine.Course.truthful` carry the two halves of
minding the token from the strategies over to the run.
-/

namespace VolumeMigration

theorem Noting.idle {trace : List Occurrence} {states : List RunState}
    (noting : Noting trace states) (elsewhere : ∀ state ∈ states, state.isEvaluating = false) :
    ∀ occurrence ∈ trace, occurrence.startsWork = false := by
  intro occurrence occurrence_mem
  have note := noting.notes occurrence occurrence_mem
  cases occurrence with
  | exchange => cases note
  | stepped step =>
      apply elsewhere step.state
      rw [← noting.states]
      exact List.mem_map_of_mem (List.mem_filterMap.mpr ⟨_, occurrence_mem, rfl⟩)
  | _ => rfl

/-- A reason to end as cancelled is told by the moments. -/
theorem CancelledBy.told {cancelled : Bool} {trace : List Occurrence}
    (reason : CancelledBy cancelled trace) (state : RunState) :
    cancelled = true ∨ (∃ moment ∈ moments state trace, moment.occurrence = .cancellation) ∨
      ∃ call ∈ calls (moments state trace), call.2.AnswersCancelled := by
  have exists_moment {occurrence : Occurrence} (occurrence_mem : occurrence ∈ trace) :
      ∃ moment ∈ moments state trace, moment.occurrence = occurrence := by
    rw [← map_occurrence_moments state trace] at occurrence_mem
    exact List.mem_map.mp occurrence_mem
  rcases reason with token | ⟨exchange, exchange_mem, answered⟩
  · rcases (Bool.or_eq_true _ _).mp token with before | during
    · exact .inl before
    · rcases List.any_eq_true.mp during with ⟨occurrence, occurrence_mem, cancels⟩
      cases occurrence with
      | cancellation => exact .inr (.inl (exists_moment occurrence_mem))
      | _ => cases cancels
  · rcases exists_moment (mem_exchanges.mp exchange_mem) with ⟨moment, moment_mem, same⟩
    have call_mem : (moment.state, exchange) ∈ calls (moments state trace) :=
      mem_calls.mpr ⟨moment, moment_mem, rfl, by rw [same]; rfl⟩
    exact .inr (.inr ⟨_, call_mem, answered⟩)

namespace Engine

variable {σ : Type}

section Record

variable {environment : Environment σ} {strategy : Strategy} {position : Nat}
  {context : AttemptContext} {before judged started ended after : World σ}
  {attempt : AttemptResult} {answer : Except Failure Applicability}
  {opening evaluation starting execution trace : List Occurrence}

theorem Evaluated.heedful (evaluated : Evaluated environment strategy position context before
    judged answer opening evaluation) (minds : strategy.Minds)
    (running : before.cancelled = false) : Heedful before.cancelled (opening ++ evaluation) := by
  rcases evaluated.course with ⟨_, _, course, rfl, -⟩
  rw [heedful_append, cancelledAfter_of_notes evaluated.noting.notes]
  refine ⟨?_, (minds.evaluation context _).heedful course⟩
  rw [running]
  exact heedful_of_uncancelled (cancelledAfter_of_notes evaluated.noting.notes)

/-- An execution starts no work after a cancellation. -/
theorem Executed.heedful (executed : Executed environment strategy position context judged started
    ended attempt starting execution) (minds : strategy.Minds) :
    Heedful judged.cancelled (starting ++ execution) := by
  rcases executed.course with ⟨_, _, course, -⟩
  rw [heedful_append, cancelledAfter_of_notes executed.noting.notes]
  refine ⟨heedful_of_idle (executed.noting.idle ?_), (minds.execution context _).heedful course⟩
  simp [RunState.isEvaluating]

/-- A trial of a strategy that minds the token starts nothing new once that is cancelled. -/
theorem Recorded.heedful
    (recorded : Recorded environment strategy position context before attempt after trace)
    (minds : strategy.Minds) (running : before.cancelled = false) :
    Heedful before.cancelled trace := by
  cases recorded with
  | unexecuted evaluated closes noting state_eq =>
      refine heedful_append.mpr ⟨evaluated.heedful minds running, ?_⟩
      refine heedful_of_idle (noting.idle ?_)
      rcases state_eq with rfl | rfl <;> simp [RunState.isEvaluating]
  | executed evaluated executed closes noting states_eq =>
      refine heedful_append.mpr ⟨heedful_append.mpr ⟨evaluated.heedful minds running, ?_⟩, ?_⟩
      · rw [← evaluated.follows.cancelled]
        exact executed.heedful minds
      · refine heedful_of_idle (noting.idle fun state state_mem => ?_)
        rw [states_eq state state_mem]
        rfl

theorem Evaluated.truthful {failure : Failure}
    (evaluated : Evaluated environment strategy position context before judged (.error failure)
      opening evaluation) (minds : strategy.Minds) (kind : failure.kind = .cancelled) :
    CancelledBy before.cancelled (opening ++ evaluation) := by
  rcases evaluated.course with ⟨_, _, course, rfl, -⟩
  apply CancelledBy.append_left
  rw [cancelledAfter_of_notes evaluated.noting.notes]
  exact (minds.evaluation context _).truthful course kind

/-- An execution that ends as cancelled was cancelled. -/
theorem Executed.truthful {message : String}
    (executed : Executed environment strategy position context judged started ended attempt
      starting execution) (minds : strategy.Minds)
    (interrupted : attempt.outcome = .failed .cancelled message) :
    CancelledBy judged.cancelled (starting ++ execution) := by
  rcases executed.course with ⟨outcome, _, course, outcome_eq⟩
  apply CancelledBy.append_left
  rw [cancelledAfter_of_notes executed.noting.notes]
  rw [interrupted] at outcome_eq
  rcases outcome with failure | done
  · exact (minds.execution context _).truthful course (AttemptOutcome.failed.inj outcome_eq).1.symm
  · cases outcome_eq

/-- A trial of a strategy that minds the token is interrupted only for a reason. -/
theorem Recorded.truthful {message : String}
    (recorded : Recorded environment strategy position context before attempt after trace)
    (minds : strategy.Minds) (interrupted : attempt.outcome = .failed .cancelled message) :
    CancelledBy before.cancelled trace := by
  cases recorded with
  | unexecuted evaluated closes noting state_eq failed reason =>
      rcases reason message interrupted with ⟨failure, rfl, kind⟩
      exact (evaluated.truthful minds kind).append_right _
  | executed evaluated executed =>
      refine CancelledBy.append_right (CancelledBy.append_left ?_) _
      rw [← evaluated.follows.cancelled]
      exact executed.truthful minds interrupted

end Record

/-! ## Runs -/

section Run

variable {engine : Engine} {environment : Environment σ} {request : Request}
  {clusters : ClusterSet ClusterHandle} {candidates : List Strategy} {position : Nat}
  {world final : World σ} {trials : List (Trial σ)} {opening closing : List Occurrence}

/-- Trials start no work after a cancellation. -/
theorem Trials.heedful
    (linked : engine.Trials environment request clusters position world trials final)
    (minds : ∀ trial ∈ trials, trial.strategy.Minds)
    (running : ∀ trial ∈ trials, trial.before.cancelled = false) :
    ∃ trace, world.Follows final trace ∧ Heedful world.cancelled trace := by
  induction linked with
  | nil position world => exact ⟨[], .refl world, trivial⟩
  | @cons position trial rest last tried more ih =>
      rw [List.forall_mem_cons] at minds running
      rcases tried.recorded with ⟨trace, recorded⟩
      rcases ih minds.2 running.2 with ⟨later, follows, heedful⟩
      refine ⟨trace ++ later, recorded.follows.trans follows, ?_⟩
      -- the later trials start where the token stands after this one
      rw [recorded.follows.cancelled] at heedful
      exact heedful_append.mpr ⟨recorded.heedful minds.1 running.1, heedful⟩

/-- Once the token is cancelled, a run starts nothing new. -/
theorem Course.heedful
    (course : engine.Course environment request clusters candidates world final trials opening
      closing) (minds : ∀ strategy ∈ candidates, strategy.Minds)
    (running : ∀ trial ∈ trials, trial.before.cancelled = false) :
    Heedful world.cancelled (world.since final) := by
  rcases course.linked with ⟨opened, closed, opens, linked, closes⟩
  rcases course.told with ⟨states, noting, terminal⟩
  have trials_mind : ∀ trial ∈ trials, trial.strategy.Minds := by
    intro trial trial_mem
    exact minds _ (course.inOrder.subset (List.mem_map_of_mem trial_mem))
  rcases linked.heedful trials_mind running with ⟨trace, follows, heedful⟩
  rw [((opens.trans follows).trans closes).since]
  rw [opens.cancelled] at heedful
  refine heedful_append.mpr ⟨heedful_append.mpr ⟨?_, heedful⟩, ?_⟩
  · exact heedful_of_idle (course.noting.idle (by simp))
  · refine heedful_of_idle (noting.idle fun state state_mem => ?_)
    have ends := terminal state state_mem
    cases state <;> first | rfl | cases ends

/-- A run in which a trial was interrupted has a reason for it. -/
theorem Course.truthful
    (course : engine.Course environment request clusters candidates world final trials opening
      closing)
    (probing : ∀ strategy ∈ candidates, ∀ context,
      (strategy.applicable context).Within Call.isProbe)
    (minds : ∀ strategy ∈ candidates, strategy.Minds) {trial : Trial σ} (trial_mem : trial ∈ trials)
    (interrupted : trial.Interrupted) : CancelledBy world.cancelled (world.since final) := by
  rcases List.append_of_mem trial_mem with ⟨earlier, later, rfl⟩
  have trial_minds := minds trial.strategy (course.inOrder.subset (by simp))
  rcases course.split probing with ⟨before, trace, after, leads, -, recorded, -, follows⟩
  have reason : CancelledBy trial.before.cancelled trace := by
    rcases interrupted with ⟨message, outcome⟩ | cancelled
    · exact recorded.truthful trial_minds outcome
    · exact .inl (by rw [← recorded.follows.cancelled, cancelled])
  rw [follows.since, List.append_assoc _ after]
  refine CancelledBy.append_right (CancelledBy.append_left ?_) _
  rwa [← leads.cancelled]

end Run

end Engine

end VolumeMigration
