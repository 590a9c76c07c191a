import VolumeMigration.World

/-!
# Courses of a plan

A course is one way in which a plan can go, whatever the clusters answer and whenever the token is
cancelled: what happens in it, which resources it notes as left over, and how it ends.
`Plan.run_course` says that every run of a plan follows a course, so that a property of all courses
is a property of all runs. Courses know neither clusters nor clock; only the token remains, since
what a plan sees of it must agree with the cancellations that happened.

A cancellation falls into a call or a pause, or is one of the plan's own steps. It is recorded once:
a token that is cancelled already stays so.
-/

namespace VolumeMigration

/-- Whether the token was cancelled. -/
def Occurrence.isCancellation : Occurrence → Bool
  | .cancellation => true
  | _ => false

/-- The change of state that an occurrence is. -/
def Occurrence.step? : Occurrence → Option RunStep
  | .stepped step => some step
  | _ => none

/-- Whether only the run itself brings an occurrence about, and no plan. -/
def Occurrence.isOfRun : Occurrence → Bool
  | .emitted _ _ | .stepped _ => true
  | _ => false

/-- Whether the token is cancelled after some occurrences. -/
def cancelledAfter (cancelled : Bool) (trace : List Occurrence) : Bool :=
  cancelled || trace.any Occurrence.isCancellation

@[simp]
theorem cancelledAfter_nil (cancelled : Bool) : cancelledAfter cancelled [] = cancelled := by
  simp [cancelledAfter]

/-- The token is carried from one part of a history to the next. -/
@[simp]
theorem cancelledAfter_append (cancelled : Bool) (first second : List Occurrence) :
    cancelledAfter cancelled (first ++ second) =
      cancelledAfter (cancelledAfter cancelled first) second := by
  simp [cancelledAfter, Bool.or_assoc]

@[simp]
theorem cancelledAfter_cons (cancelled : Bool) (occurrence : Occurrence)
    (trace : List Occurrence) :
    cancelledAfter cancelled (occurrence :: trace) =
      cancelledAfter (cancelled || occurrence.isCancellation) trace := by
  simp [cancelledAfter, Bool.or_assoc]

/-- A cancellation is never taken back. -/
@[simp]
theorem cancelledAfter_true (trace : List Occurrence) : cancelledAfter true trace = true := by
  simp [cancelledAfter]

/-- What one step of a plan can bring about: its reply, what happens and what it notes as left
over, from a state of the token. -/
inductive Action.Effect : (action : Action) → Bool → action.Reply → List Occurrence →
    List String → Prop where
  | asked {cluster : ClusterHandle} {call : Call} (cancelled : Bool)
      (result : Except Failure call.Answer) :
      Effect (.ask cluster call) cancelled result [.exchange cluster call result] []
  | askedCancelling {cluster : ClusterHandle} {call : Call}
      (result : Except Failure call.Answer) :
      Effect (.ask cluster call) false result
        [.exchange cluster call result, .cancellation] []
  | looked (cancelled : Bool) : Effect .lookAtToken cancelled cancelled [] []
  | cancelled : Effect .cancelToken false () [.cancellation] []
  | cancelledBefore : Effect .cancelToken true () [] []
  | paused (length : Duration) : Effect (.pause length) false true [] []
  | pausedCancelling (length : Duration) :
      Effect (.pause length) false false [.cancellation] []
  | pausedCancelled (length : Duration) : Effect (.pause length) true false [] []
  | logged (entry : LogRecord) (cancelled : Bool) :
      Effect (.log entry) cancelled () [.logged entry] []
  | noted (failure : String) (cancelled : Bool) :
      Effect (.noteLeftover failure) cancelled () [] [failure]

/-- A course of a plan from a state of the token: what happens, what is noted as left over, and
how the plan ends. -/
inductive Plan.Course {α : Type} : Plan α → Bool → List Occurrence → List String →
    Except Failure α → Prop where
  | done (value : α) (cancelled : Bool) : Course (.done value) cancelled [] [] (.ok value)
  | fail (failure : Failure) (cancelled : Bool) :
      Course (.fail failure) cancelled [] [] (.error failure)
  | step {action : Action} {next : action.Reply → Plan α} {cancelled : Bool}
      {reply : action.Reply} {first second : List Occurrence}
      {noted leftovers : List String} {outcome : Except Failure α}
      (effect : action.Effect cancelled reply first noted)
      (rest : Course (next reply) (cancelledAfter cancelled first) second leftovers outcome) :
      Course (.step action next) cancelled (first ++ second) (noted ++ leftovers) outcome

/-- More has happened in a world than in another. -/
structure World.Follows {σ : Type} (before after : World σ) (trace : List Occurrence) : Prop where
  history : after.history.toList = before.history.toList ++ trace
  cancelled : after.cancelled = cancelledAfter before.cancelled trace

namespace World

variable {σ : Type}

theorem Follows.refl (world : World σ) : world.Follows world [] :=
  ⟨by simp, by simp⟩

/-- Worlds that follow each other put their histories together. -/
theorem Follows.trans {before middle after : World σ} {first second : List Occurrence}
    (left : before.Follows middle first) (right : middle.Follows after second) :
    before.Follows after (first ++ second) :=
  ⟨by rw [right.history, left.history, List.append_assoc],
    by rw [right.cancelled, left.cancelled, cancelledAfter_append]⟩

/-- What happened between two worlds. -/
def since (earlier later : World σ) : List Occurrence :=
  later.history.toList.drop earlier.history.size

/-- What happened between two worlds is the history by which one follows the other. -/
theorem Follows.since {before after : World σ} {trace : List Occurrence}
    (follows : before.Follows after trace) : before.since after = trace := by
  simp [World.since, follows.history]

theorem record_follows (world : World σ) {occurrence : Occurrence}
    (kept : occurrence.isCancellation = false) :
    world.Follows (world.record occurrence) [occurrence] := by
  constructor <;> simp [record, kept]

theorem cancel_follows (world : World σ) (running : world.cancelled = false) :
    world.Follows world.cancel [.cancellation] := by
  constructor <;> simp [cancel, record, running, Occurrence.isCancellation]

theorem cancel_of_cancelled {world : World σ} (cancelled : world.cancelled = true) :
    world.cancel = world := by
  simp [cancel, cancelled]

@[simp]
theorem leftovers_record (world : World σ) (occurrence : Occurrence) :
    (world.record occurrence).leftovers = world.leftovers :=
  rfl

@[simp]
theorem leftovers_cancel (world : World σ) : world.cancel.leftovers = world.leftovers := by
  unfold cancel
  split <;> rfl

/-- Asking a cluster leaves the call in the history, and the cancellation that may come with it. -/
theorem ask_effect (environment : Environment σ) (world : World σ) (cluster : ClusterHandle)
    (call : Call) :
    ∃ trace,
      (Action.ask cluster call).Effect world.cancelled
          (world.ask environment cluster call).1 trace [] ∧
        world.Follows (world.ask environment cluster call).2 trace ∧
        (world.ask environment cluster call).2.leftovers = world.leftovers := by
  rcases answered : environment.respond cluster call world.clock world.clusters with
    ⟨⟨result, cancels⟩, clusters⟩
  let asked := { world with clusters }.record (.exchange cluster call result)
  have recorded : world.Follows asked [.exchange cluster call result] := by
    constructor <;> simp [asked, record, Occurrence.isCancellation]
  have ask_eq : world.ask environment cluster call =
      (result, if cancels then asked.cancel else asked) := by
    simp [World.ask, answered, asked]
  rw [ask_eq]
  by_cases falls : cancels = true ∧ world.cancelled = false
  · refine ⟨[.exchange cluster call result, .cancellation], ?_, ?_, ?_⟩
    · rw [falls.2]
      exact .askedCancelling result
    · simpa [falls.1] using recorded.trans (asked.cancel_follows falls.2)
    · simp [falls.1, asked]
  · refine ⟨[.exchange cluster call result], .asked _ _, ?_, ?_⟩
    · cases cancels with
      | false => simpa using recorded
      | true =>
          have cancelled : asked.cancelled = true := by
            simpa [asked, record] using falls
          simpa [cancel_of_cancelled cancelled] using recorded
    · cases cancels <;> simp [asked]

/-- A pause leaves nothing in the history but the cancellation that may end it. -/
theorem pause_effect (environment : Environment σ) (world : World σ) (length : Duration) :
    ∃ trace,
      (Action.pause length).Effect world.cancelled (world.pause environment length).1 trace [] ∧
        world.Follows (world.pause environment length).2 trace ∧
        (world.pause environment length).2.leftovers = world.leftovers := by
  rcases cancelled : world.cancelled with _ | _
  · rcases planned : environment.cancelTime with _ | time
    · refine ⟨[], ?_, ?_, by simp [pause, cancelled, planned]⟩
      · simpa [pause, cancelled, planned] using Action.Effect.paused length
      · constructor <;> simp [pause, cancelled, planned]
    · by_cases reached : time ≤ world.clock + length
      · refine ⟨[.cancellation], ?_, ?_, by simp [pause, cancelled, planned, reached]⟩
        · simpa [pause, cancelled, planned, reached] using
            Action.Effect.pausedCancelling length
        · have follows := { world with clock := max world.clock time }.cancel_follows cancelled
          constructor
          · simpa [pause, cancelled, planned, reached] using follows.history
          · simpa [pause, cancelled, planned, reached] using follows.cancelled
      · refine ⟨[], ?_, ?_, by simp [pause, cancelled, planned, reached]⟩
        · simpa [pause, cancelled, planned, reached] using Action.Effect.paused length
        · constructor <;> simp [pause, cancelled, planned, reached]
  · refine ⟨[], ?_, ?_, by simp [pause, cancelled]⟩
    · simpa [pause, cancelled] using Action.Effect.pausedCancelled length
    · constructor <;> simp [pause, cancelled]

/-- Every action has one of its effects on a world. -/
theorem perform_effect (environment : Environment σ) (world : World σ) (action : Action) :
    ∃ trace leftovers,
      action.Effect world.cancelled (world.perform environment action).1 trace leftovers ∧
        world.Follows (world.perform environment action).2 trace ∧
        (world.perform environment action).2.leftovers = world.leftovers ++ leftovers := by
  cases action with
  | ask cluster call =>
      rcases world.ask_effect environment cluster call with ⟨trace, effect, follows, kept⟩
      exact ⟨trace, [], effect, follows, by simpa [perform] using kept⟩
  | lookAtToken => exact ⟨[], [], .looked _, .refl _, by simp [perform]⟩
  | cancelToken =>
      rcases cancelled : world.cancelled with _ | _
      · exact ⟨_, [], .cancelled, world.cancel_follows cancelled, by simp [perform]⟩
      · refine ⟨_, [], .cancelledBefore, ?_, by simp [perform]⟩
        simpa [perform, cancel_of_cancelled cancelled] using Follows.refl world
  | pause length =>
      rcases world.pause_effect environment length with ⟨trace, effect, follows, kept⟩
      exact ⟨trace, [], effect, follows, by simpa [perform] using kept⟩
  | log entry =>
      exact ⟨_, [], .logged _ _, world.record_follows rfl, by simp [perform, World.log]⟩
  | noteLeftover failure =>
      refine ⟨[], _, .noted _ _, ?_, rfl⟩
      constructor <;> simp [perform]

end World

namespace Plan

variable {σ α β : Type}

/-- Every run of a plan follows one of its courses. -/
theorem run_course (environment : Environment σ) (plan : Plan α) (world : World σ) :
    ∃ trace leftovers,
      plan.Course world.cancelled trace leftovers (plan.run environment world).1 ∧
        world.Follows (plan.run environment world).2 trace ∧
        (plan.run environment world).2.leftovers = world.leftovers ++ leftovers := by
  induction plan generalizing world with
  | done value => exact ⟨[], [], .done _ _, .refl _, by simp [run]⟩
  | fail failure => exact ⟨[], [], .fail _ _, .refl _, by simp [run]⟩
  | step action next ih =>
      rcases world.perform_effect environment action with
        ⟨first, noted, effect, performed, added⟩
      rcases ih (world.perform environment action).1 (world.perform environment action).2 with
        ⟨second, leftovers, rest, follows, more⟩
      rw [performed.cancelled] at rest
      refine ⟨first ++ second, noted ++ leftovers, .step effect rest, ?_, ?_⟩
      · exact performed.trans follows
      · rw [← List.append_assoc, ← added]
        exact more

/-- A plan leaves nothing in the history that only a run can. -/
theorem Course.not_isOfRun {plan : Plan α} {cancelled : Bool}
    {trace : List Occurrence} {leftovers : List String} {outcome : Except Failure α}
    (course : plan.Course cancelled trace leftovers outcome) :
    ∀ occurrence ∈ trace, occurrence.isOfRun = false := by
  induction course with
  | done => simp
  | fail => simp
  | step effect _ ih =>
      intro occurrence occurrence_mem
      rcases List.mem_append.mp occurrence_mem with now | later
      · cases effect <;> simp_all [Occurrence.isOfRun]
        rcases now with rfl | rfl <;> rfl
      · exact ih occurrence later

/-- Plans change no state of the run. -/
theorem Course.unstepped {plan : Plan α} {cancelled : Bool}
    {trace : List Occurrence} {leftovers : List String} {outcome : Except Failure α}
    (course : plan.Course cancelled trace leftovers outcome) :
    ∀ occurrence ∈ trace, occurrence.step? = none := by
  intro occurrence occurrence_mem
  have planned := course.not_isOfRun occurrence occurrence_mem
  cases occurrence <;> simp_all [Occurrence.isOfRun, Occurrence.step?]

/-! ## The courses of plans made of others -/

theorem course_done_iff {value : α} {cancelled : Bool} {trace : List Occurrence}
    {leftovers : List String} {outcome : Except Failure α} :
    (Plan.done value).Course cancelled trace leftovers outcome ↔
      trace = [] ∧ leftovers = [] ∧ outcome = .ok value := by
  constructor
  · intro course
    cases course
    exact ⟨rfl, rfl, rfl⟩
  · rintro ⟨rfl, rfl, rfl⟩
    exact .done _ _

theorem course_fail_iff {failure : Failure} {cancelled : Bool} {trace : List Occurrence}
    {leftovers : List String} {outcome : Except Failure α} :
    (Plan.fail failure : Plan α).Course cancelled trace leftovers outcome ↔
      trace = [] ∧ leftovers = [] ∧ outcome = .error failure := by
  constructor
  · intro course
    cases course
    exact ⟨rfl, rfl, rfl⟩
  · rintro ⟨rfl, rfl, rfl⟩
    exact .fail _ _

theorem course_ofExcept_iff {result : Except Failure α} {cancelled : Bool}
    {trace : List Occurrence} {leftovers : List String} {outcome : Except Failure α} :
    (Plan.ofExcept result).Course cancelled trace leftovers outcome ↔
      trace = [] ∧ leftovers = [] ∧ outcome = result := by
  cases result with
  | ok value => exact course_done_iff
  | error failure => exact course_fail_iff

/-- A continued plan fails as its first part does, or goes on where that ended. -/
theorem Course.of_bind {plan : Plan α} {next : α → Plan β} {cancelled : Bool}
    {trace : List Occurrence} {leftovers : List String} {outcome : Except Failure β}
    (course : (plan.bind next).Course cancelled trace leftovers outcome) :
    (∃ failure, outcome = .error failure ∧
        plan.Course cancelled trace leftovers (.error failure)) ∨
      ∃ value first second noted more, trace = first ++ second ∧ leftovers = noted ++ more ∧
        plan.Course cancelled first noted (.ok value) ∧
        (next value).Course (cancelledAfter cancelled first) second more outcome := by
  induction plan generalizing cancelled trace leftovers with
  | done value => exact .inr ⟨value, [], trace, [], leftovers, rfl, rfl, .done _ _, by simpa⟩
  | fail failure =>
      rcases course_fail_iff.mp course with ⟨rfl, rfl, rfl⟩
      exact .inl ⟨failure, rfl, .fail _ _⟩
  | step action rest ih =>
      rcases course with _ | _ | ⟨effect, course⟩
      rcases ih _ course with ⟨failure, rfl, failed⟩ |
        ⟨value, first, second, noted, more, rfl, rfl, ended, course⟩
      · exact .inl ⟨failure, rfl, .step effect failed⟩
      · refine .inr ⟨value, _, second, _, more, ?_, ?_, .step effect ended, ?_⟩
        · rw [List.append_assoc]
        · rw [List.append_assoc]
        · simpa using course

/-- A plan that ends well has gone through both of its parts. -/
theorem Course.of_bind_ok {plan : Plan α} {next : α → Plan β} {cancelled : Bool}
    {trace : List Occurrence} {leftovers : List String} {result : β}
    (course : (plan.bind next).Course cancelled trace leftovers (.ok result)) :
    ∃ value first second noted more, trace = first ++ second ∧ leftovers = noted ++ more ∧
      plan.Course cancelled first noted (.ok value) ∧
      (next value).Course (cancelledAfter cancelled first) second more (.ok result) := by
  rcases course.of_bind with ⟨failure, impossible, -⟩ | parts
  · cases impossible
  · exact parts

/-- A failure that is caught is a result. -/
theorem Course.of_attempt {plan : Plan α} {cancelled : Bool} {trace : List Occurrence}
    {leftovers : List String} {outcome : Except Failure (Except Failure α)}
    (course : plan.attempt.Course cancelled trace leftovers outcome) :
    ∃ result, outcome = .ok result ∧ plan.Course cancelled trace leftovers result := by
  induction plan generalizing cancelled trace leftovers with
  | done value =>
      rcases course_done_iff.mp course with ⟨rfl, rfl, rfl⟩
      exact ⟨_, rfl, .done _ _⟩
  | fail failure =>
      rcases course_done_iff.mp course with ⟨rfl, rfl, rfl⟩
      exact ⟨_, rfl, .fail _ _⟩
  | step action rest ih =>
      rcases course with _ | _ | ⟨effect, course⟩
      rcases ih _ course with ⟨result, rfl, ended⟩
      exact ⟨result, rfl, .step effect ended⟩

/-- A plan that goes on from the outcome of another, whichever it is. -/
theorem Course.of_attempt_bind {plan : Plan α} {next : Except Failure α → Plan β}
    {cancelled : Bool} {trace : List Occurrence} {leftovers : List String}
    {outcome : Except Failure β}
    (course : (plan.attempt.bind next).Course cancelled trace leftovers outcome) :
    ∃ result first second noted more, trace = first ++ second ∧ leftovers = noted ++ more ∧
      plan.Course cancelled first noted result ∧
      (next result).Course (cancelledAfter cancelled first) second more outcome := by
  rcases course.of_bind with ⟨failure, -, failed⟩ |
    ⟨result, first, second, noted, more, trace_eq, leftovers_eq, ended, rest⟩
  · rcases failed.of_attempt with ⟨_, impossible, -⟩
    cases impossible
  · rcases ended.of_attempt with ⟨_, same, ended⟩
    cases same
    exact ⟨result, first, second, noted, more, trace_eq, leftovers_eq, ended, rest⟩

/-- What happens when a cluster is asked: its answer, and then possibly the cancellation of a
token that was not cancelled before. -/
def Asking (cluster : ClusterHandle) (call : Call) (result : Except Failure call.Answer)
    (cancelled : Bool) (trace : List Occurrence) : Prop :=
  trace = [.exchange cluster call result] ∨
    cancelled = false ∧ trace = [.exchange cluster call result, .cancellation]

/-- A call has no course but its exchange. -/
theorem Course.of_ask {cluster : ClusterHandle} {call : Call} {cancelled : Bool}
    {trace : List Occurrence} {leftovers : List String} {outcome : Except Failure call.Answer}
    (course : (Plan.ask cluster call).Course cancelled trace leftovers outcome) :
    leftovers = [] ∧ Asking cluster call outcome cancelled trace := by
  rcases course with _ | _ | ⟨effect, course⟩
  rcases course_ofExcept_iff.mp course with ⟨rfl, rfl, rfl⟩
  cases effect with
  | asked => exact ⟨rfl, .inl rfl⟩
  | askedCancelling => exact ⟨rfl, .inr ⟨rfl, rfl⟩⟩

/-- A check of the token fails exactly if it is cancelled. -/
theorem Course.of_checkToken {cancelled : Bool} {trace : List Occurrence}
    {leftovers : List String} {outcome : Except Failure Unit}
    (course : Plan.checkToken.Course cancelled trace leftovers outcome) :
    trace = [] ∧ leftovers = [] ∧
      outcome = if cancelled then .error .cancelled else .ok () := by
  rcases course with _ | _ | ⟨effect, course⟩
  cases effect
  cases cancelled with
  | false =>
      rcases course_done_iff.mp course with ⟨rfl, rfl, rfl⟩
      exact ⟨rfl, rfl, rfl⟩
  | true =>
      rcases course_fail_iff.mp course with ⟨rfl, rfl, rfl⟩
      exact ⟨rfl, rfl, rfl⟩

/-- A pause ends well only if the token is not cancelled at its end. -/
theorem Course.of_pause {length : Duration} {cancelled : Bool} {trace : List Occurrence}
    {leftovers : List String} {outcome : Except Failure Unit}
    (course : (Plan.pause length).Course cancelled trace leftovers outcome) :
    leftovers = [] ∧
      (cancelled = false ∧ trace = [] ∧ outcome = .ok () ∨
        cancelledAfter cancelled trace = true ∧ (trace = [] ∨ trace = [.cancellation]) ∧
          outcome = .error .cancelled) := by
  rcases course with _ | _ | ⟨effect, course⟩
  cases effect with
  | paused =>
      rcases course_done_iff.mp course with ⟨rfl, rfl, rfl⟩
      exact ⟨rfl, .inl ⟨rfl, rfl, rfl⟩⟩
  | pausedCancelling =>
      rcases course_fail_iff.mp course with ⟨rfl, rfl, rfl⟩
      exact ⟨rfl, .inr ⟨by simp [Occurrence.isCancellation], .inr rfl, rfl⟩⟩
  | pausedCancelled =>
      rcases course_fail_iff.mp course with ⟨rfl, rfl, rfl⟩
      exact ⟨rfl, .inr ⟨by simp, .inl rfl, rfl⟩⟩

theorem Course.of_warn {message : String} {cancelled : Bool} {trace : List Occurrence}
    {leftovers : List String} {outcome : Except Failure Unit}
    (course : (Plan.warn message).Course cancelled trace leftovers outcome) :
    trace = [.logged ⟨.warn, message⟩] ∧ leftovers = [] ∧ outcome = .ok () := by
  rcases course with _ | _ | ⟨effect, course⟩
  rcases course_done_iff.mp course with ⟨rfl, rfl, rfl⟩
  cases effect
  exact ⟨rfl, rfl, rfl⟩

theorem Course.of_noteLeftover {failure : String} {cancelled : Bool} {trace : List Occurrence}
    {leftovers : List String} {outcome : Except Failure Unit}
    (course : (Plan.noteLeftover failure).Course cancelled trace leftovers outcome) :
    trace = [] ∧ leftovers = [failure] ∧ outcome = .ok () := by
  rcases course with _ | _ | ⟨effect, course⟩
  rcases course_done_iff.mp course with ⟨rfl, rfl, rfl⟩
  cases effect
  exact ⟨rfl, rfl, rfl⟩

end Plan

end VolumeMigration
