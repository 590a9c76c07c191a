import VolumeMigration.Proofs.Plan.Calls

/-!
# The courses of a wait

`Looking` and `Polling` say all that one look and a whole wait can come to. Every look starts with
a token that is not cancelled, and the wait ends well only with a look that answers.
-/

namespace VolumeMigration

variable {α : Type} {look : Plan (Option α)}

/-- What can come of one look of a wait: the token is cancelled before, the look answers or
answers nothing, the cluster fails and is excused, or something else fails. -/
inductive Looking (look : Plan (Option α)) : Bool → List Occurrence →
    Except Failure (Option α) → Prop where
  | cancelled : Looking look true [] (.error .cancelled)
  | answered {trace : List Occurrence} {noted : List String} {answer : Option α}
      (looked : look.Course false trace noted (.ok answer)) :
      Looking look false trace (.ok answer)
  | excused {trace : List Occurrence} {noted : List String} {failure : Failure}
      {entry : LogRecord} (looked : look.Course false trace noted (.error failure))
      (kind : failure.kind = .cluster) :
      Looking look false (trace ++ [.logged entry]) (.ok none)
  | failed {trace : List Occurrence} {noted : List String} {failure : Failure}
      (looked : look.Course false trace noted (.error failure)) :
      Looking look false trace (.error failure)

/-- One look decides, is passed over for a failure of the cluster, or fails. -/
theorem course_lookOnce {cancelled : Bool} {trace : List Occurrence} {leftovers : List String}
    {outcome : Except Failure (Option α)}
    (course : (lookOnce look).Course cancelled trace leftovers outcome) :
    Looking look cancelled trace outcome := by
  rcases course.of_bind with ⟨failure, rfl, check⟩ |
    ⟨_, silent, rest, _, _, rfl, rfl, check, attempted⟩
  · rcases check.of_checkToken with ⟨rfl, rfl, failed⟩
    cases cancelled with
    | false => cases failed
    | true =>
        cases failed
        exact .cancelled
  · rcases check.of_checkToken with ⟨rfl, rfl, passed⟩
    cases cancelled with
    | true => cases passed
    | false =>
        rcases attempted.of_attempt_bind with
          ⟨result, looked, more, noted, _, rfl, rfl, looking, judged⟩
        simp only [cancelledAfter_nil] at looking
        rcases result with failure | answer
        · dsimp only at judged
          split at judged
          next kind =>
            rcases judged.of_bind with ⟨_, -, warned⟩ |
              ⟨_, told, last, _, _, rfl, rfl, warned, ended⟩
            · rcases warned.of_warn with ⟨-, -, impossible⟩
              cases impossible
            · rcases warned.of_warn with ⟨rfl, -, -⟩
              rcases Plan.course_done_iff.mp ended with ⟨rfl, -, rfl⟩
              exact .excused looking kind
          next =>
            rcases Plan.course_fail_iff.mp judged with ⟨rfl, -, rfl⟩
            simpa using Looking.failed looking
        · rcases Plan.course_done_iff.mp judged with ⟨rfl, -, rfl⟩
          simpa using Looking.answered looking

/-- What can come of a wait: a look fails or answers, the pause after a look is interrupted, the
limit passes, or the wait goes on after a pause. -/
inductive Polling (look : Plan (Option α)) (tooLate : Failure) : Bool → List Occurrence →
    Except Failure α → Prop where
  | failed {cancelled : Bool} {trace : List Occurrence} {failure : Failure}
      (looking : Looking look cancelled trace (.error failure)) :
      Polling look tooLate cancelled trace (.error failure)
  | answered {cancelled : Bool} {trace : List Occurrence} {answer : α}
      (looking : Looking look cancelled trace (.ok (some answer))) :
      Polling look tooLate cancelled trace (.ok answer)
  | interrupted {cancelled : Bool} {trace pause : List Occurrence}
      (looking : Looking look cancelled trace (.ok none))
      (pausing : pause = [] ∨ pause = [.cancellation])
      (token : cancelledAfter cancelled (trace ++ pause) = true) :
      Polling look tooLate cancelled (trace ++ pause) (.error .cancelled)
  | tooLate {cancelled : Bool} {trace : List Occurrence}
      (looking : Looking look cancelled trace (.ok none)) :
      Polling look tooLate cancelled trace (.error tooLate)
  | again {cancelled : Bool} {trace more : List Occurrence} {outcome : Except Failure α}
      (looking : Looking look cancelled trace (.ok none))
      (token : cancelledAfter cancelled trace = false)
      (polling : Polling look tooLate false more outcome) :
      Polling look tooLate cancelled (trace ++ more) outcome

/-- A wait that goes on after a pause, or is interrupted in it. -/
theorem polling_of_pause {tooLate : Failure} {length : Duration} {next : Unit → Plan α}
    {cancelled : Bool} {first second : List Occurrence} {leftovers : List String}
    {outcome : Except Failure α} (looking : Looking look cancelled first (.ok none))
    (course : ((Plan.pause length).bind next).Course (cancelledAfter cancelled first) second
      leftovers outcome)
    (goesOn : ∀ {noted}, cancelledAfter cancelled first = false →
      (next ()).Course false second noted outcome →
        Polling look tooLate cancelled (first ++ second) outcome) :
    Polling look tooLate cancelled (first ++ second) outcome := by
  rcases course.of_bind with ⟨failure, rfl, paused⟩ |
    ⟨_, pause, rest, _, _, rfl, rfl, paused, followed⟩
  · rcases paused.of_pause.2 with ⟨-, -, impossible⟩ | ⟨token, pausing, failed⟩
    · cases impossible
    · cases failed
      exact .interrupted looking pausing (by simpa using token)
  · rcases paused.of_pause.2 with ⟨token, rfl, -⟩ | ⟨-, -, impossible⟩
    · rw [token] at followed
      exact goesOn token followed
    · cases impossible

/-- A wait is made of looks, up to one that decides, a cancellation or the limit. -/
theorem course_pollUntil {interval limit : Duration} {positive : 0 < interval} {tooLate : Failure}
    {cancelled : Bool} {trace : List Occurrence} {leftovers : List String}
    {outcome : Except Failure α}
    (course : (pollUntil positive limit tooLate look).Course cancelled trace leftovers outcome) :
    Polling look tooLate cancelled trace outcome := by
  induction limit using Duration.induct positive generalizing cancelled trace leftovers with
  | step limit ih =>
      rw [pollUntil_eq] at course
      rcases course.of_bind with ⟨failure, rfl, looked⟩ |
        ⟨answer, first, second, _, _, rfl, rfl, looked, followed⟩
      · exact .failed (course_lookOnce looked)
      rcases answer with _ | answer
      · simp only [goOn] at followed
        split at followed
        next again =>
          refine polling_of_pause (course_lookOnce looked) followed fun token going => ?_
          exact .again (course_lookOnce looked) token (ih again going)
        next =>
          refine polling_of_pause (course_lookOnce looked) followed fun token ended => ?_
          rcases Plan.course_fail_iff.mp ended with ⟨rfl, -, rfl⟩
          simpa using Polling.tooLate (course_lookOnce looked)
      · rcases Plan.course_done_iff.mp followed with ⟨rfl, -, rfl⟩
        simpa using Polling.answered (course_lookOnce looked)

end VolumeMigration
