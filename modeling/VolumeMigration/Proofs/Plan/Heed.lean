import VolumeMigration.Proofs.Plan.Resources
import VolumeMigration.Proofs.Plan.Waiting

/-!
# Plans that mind the token

A plan minds the token (`Plan.Minds`) if it neither creates an object nor looks at one once the
token is cancelled, and ends with a failure of the kind `cancelled` only when the token is
cancelled or a cluster answered so. Plans that follow each other keep to that; what makes the
transfers mind the token are the checks before each creation and before each look of a wait.
-/

namespace VolumeMigration

/-- Whether a candidate is being evaluated. -/
def RunState.isEvaluating : RunState → Bool
  | .evaluating _ => true
  | _ => false

/-- Whether an occurrence starts new work: an object is created or looked at, or the evaluation of
a candidate begins. -/
def Occurrence.startsWork : Occurrence → Bool
  | .exchange _ call _ => call.isWork
  | .stepped step => step.state.isEvaluating
  | _ => false

/-- From a state of the token, nothing starts new work once the token is cancelled. -/
def Heedful : Bool → List Occurrence → Prop
  | _, [] => True
  | cancelled, occurrence :: rest =>
      (cancelled = true → occurrence.startsWork = false) ∧
        Heedful (cancelled || occurrence.isCancellation) rest

/-- A history is heedful if both of its parts are, the second one as the first one leaves the token.
-/
theorem heedful_append {cancelled : Bool} {first second : List Occurrence} :
    Heedful cancelled (first ++ second) ↔
      Heedful cancelled first ∧ Heedful (cancelledAfter cancelled first) second := by
  induction first generalizing cancelled with
  | nil => simp [Heedful]
  | cons occurrence rest ih => simp [Heedful, ih, and_assoc]

theorem heedful_of_idle {cancelled : Bool} {trace : List Occurrence}
    (idle : ∀ occurrence ∈ trace, occurrence.startsWork = false) : Heedful cancelled trace := by
  induction trace generalizing cancelled with
  | nil => trivial
  | cons occurrence rest ih =>
      rw [List.forall_mem_cons] at idle
      exact ⟨fun _ => idle.1, ih idle.2⟩

/-- With a cancelled token no work is started. -/
theorem idle_of_heedful {trace : List Occurrence} (heedful : Heedful true trace) :
    ∀ occurrence ∈ trace, occurrence.startsWork = false := by
  induction trace with
  | nil => simp
  | cons occurrence rest ih =>
      rw [List.forall_mem_cons]
      exact ⟨heedful.1 rfl, ih heedful.2⟩

/-- A history without a cancellation is heedful. -/
theorem heedful_of_uncancelled {trace : List Occurrence}
    (uncancelled : cancelledAfter false trace = false) : Heedful false trace := by
  induction trace with
  | nil => trivial
  | cons occurrence rest ih =>
      rw [cancelledAfter_cons, Bool.false_or] at uncancelled
      cases cancels : occurrence.isCancellation with
      | true => simp [cancels] at uncancelled
      | false =>
          rw [cancels] at uncancelled
          exact ⟨by simp, by simpa [cancels] using ih uncancelled⟩

/-- Asking before the token is cancelled is heedful, also if the token is cancelled meanwhile. -/
theorem Plan.Asking.heedful {cluster : ClusterHandle} {call : Call}
    {result : Except Failure call.Answer} {trace : List Occurrence}
    (asking : Asking cluster call result false trace) : Heedful false trace := by
  rcases asking with rfl | ⟨-, rfl⟩ <;> simp [Heedful, Occurrence.startsWork]

/-- The failure of a call that failed. -/
def Exchange.failure? (exchange : Exchange) : Option Failure :=
  match exchange.result with
  | .ok _ => none
  | .error failure => some failure

/-- A cluster answered with a failure of the kind `cancelled`. -/
def Exchange.AnswersCancelled (exchange : Exchange) : Prop :=
  ∃ failure, exchange.failure? = some failure ∧ failure.kind = .cancelled

/-- There is a reason to end as cancelled: the token is, or a cluster answered so. -/
def CancelledBy (cancelled : Bool) (trace : List Occurrence) : Prop :=
  cancelledAfter cancelled trace = true ∨
    ∃ exchange ∈ exchanges trace, exchange.AnswersCancelled

theorem CancelledBy.append_right {cancelled : Bool} {first : List Occurrence}
    (reason : CancelledBy cancelled first) (second : List Occurrence) :
    CancelledBy cancelled (first ++ second) := by
  rcases reason with token | ⟨exchange, exchange_mem, answered⟩
  · exact .inl (by simp [token])
  · exact .inr ⟨exchange, by simp [exchange_mem], answered⟩

theorem CancelledBy.append_left {cancelled : Bool} {first second : List Occurrence}
    (reason : CancelledBy (cancelledAfter cancelled first) second) :
    CancelledBy cancelled (first ++ second) := by
  rcases reason with token | ⟨exchange, exchange_mem, answered⟩
  · exact .inl (by simpa using token)
  · exact .inr ⟨exchange, by simp [exchange_mem], answered⟩

namespace Plan

variable {α β : Type}

/-- From a state of the token, a plan starts no new work once the token is cancelled, and ends as
cancelled only for a reason. -/
structure MindsFrom (plan : Plan α) (cancelled : Bool) : Prop where
  heedful : ∀ {trace : List Occurrence} {leftovers : List String} {outcome : Except Failure α},
    plan.Course cancelled trace leftovers outcome → Heedful cancelled trace
  truthful : ∀ {trace : List Occurrence} {leftovers : List String} {failure : Failure},
    plan.Course cancelled trace leftovers (.error failure) → failure.kind = .cancelled →
      CancelledBy cancelled trace

/-- A plan that minds the token, whether that is cancelled before or not. -/
def Minds (plan : Plan α) : Prop :=
  ∀ cancelled, plan.MindsFrom cancelled

/-- A plan minds the token, if its first part does from the start and the rest always. -/
theorem MindsFrom.bind {plan : Plan α} {next : α → Plan β} {cancelled : Bool}
    (first : plan.MindsFrom cancelled) (rest : ∀ value, (next value).Minds) :
    (plan.bind next).MindsFrom cancelled := by
  constructor
  · intro trace leftovers outcome course
    rcases course.of_bind with ⟨failure, -, failed⟩ |
      ⟨value, early, late, noted, more, rfl, rfl, ended, followed⟩
    · exact first.heedful failed
    · exact heedful_append.mpr ⟨first.heedful ended, (rest value _).heedful followed⟩
  · intro trace leftovers failure course kind
    rcases course.of_bind with ⟨_, same, failed⟩ |
      ⟨value, early, late, noted, more, rfl, rfl, ended, followed⟩
    · cases same
      exact first.truthful failed kind
    · exact ((rest value _).truthful followed kind).append_left

/-- A plan minds the token if its parts do. -/
theorem Minds.bind {plan : Plan α} {next : α → Plan β} (first : plan.Minds)
    (rest : ∀ value, (next value).Minds) : (plan.bind next).Minds :=
  fun cancelled => (first cancelled).bind rest

/-- A course without work is heedful. -/
theorem Course.heedful_of_idle {plan : Plan α} {cancelled : Bool} {trace : List Occurrence}
    {leftovers : List String} {outcome : Except Failure α}
    (course : plan.Course cancelled trace leftovers outcome)
    (idle : ∀ exchange ∈ exchanges trace, exchange.call.isWork = false) :
    Heedful cancelled trace := by
  refine VolumeMigration.heedful_of_idle fun occurrence occurrence_mem => ?_
  cases occurrence with
  | exchange cluster call result =>
      have called : ⟨cluster, call, result⟩ ∈ exchanges trace := mem_exchanges.mpr occurrence_mem
      exact idle _ called
  | stepped step =>
      have impossible := course.unstepped _ occurrence_mem
      cases impossible
  | _ => rfl

theorem minds_ofExcept {result : Except Failure α}
    (uncancelled : ∀ failure, result = .error failure → failure.kind ≠ .cancelled) :
    (ofExcept result).Minds := by
  intro cancelled
  constructor
  · intro trace leftovers outcome course
    rcases course_ofExcept_iff.mp course with ⟨rfl, -, -⟩
    trivial
  · intro trace leftovers failure course kind
    rcases course_ofExcept_iff.mp course with ⟨-, -, rfl⟩
    exact absurd kind (uncancelled failure rfl)

theorem minds_done (value : α) : (Plan.done value).Minds := by
  have minds : (ofExcept (.ok value)).Minds := minds_ofExcept (by simp)
  exact minds

theorem minds_fail {failure : Failure} (uncancelled : failure.kind ≠ .cancelled) :
    (Plan.fail failure : Plan α).Minds := by
  have minds : (ofExcept (.error failure : Except Failure α)).Minds :=
    minds_ofExcept (by simpa using uncancelled)
  exact minds

/-- A call that ends as cancelled was cancelled. -/
theorem Course.cancelledBy_of_ask {cluster : ClusterHandle} {call : Call} {cancelled : Bool}
    {trace : List Occurrence} {leftovers : List String} {failure : Failure}
    (course : (ask cluster call).Course cancelled trace leftovers (.error failure))
    (kind : failure.kind = .cancelled) : CancelledBy cancelled trace := by
  refine .inr ⟨⟨cluster, call, .error failure⟩, ?_, failure, rfl, kind⟩
  simp [course.of_ask.2.exchanges]

theorem minds_ask (cluster : ClusterHandle) {call : Call} (idle : call.isWork = false) :
    (ask cluster call).Minds := by
  intro cancelled
  constructor
  · intro trace leftovers outcome course
    refine course.heedful_of_idle ?_
    simpa [course.of_ask.2.exchanges] using idle
  · intro trace leftovers failure course kind
    exact course.cancelledBy_of_ask kind

/-- A call that starts with a token in force minds it. -/
theorem mindsFrom_ask (cluster : ClusterHandle) (call : Call) :
    (ask cluster call).MindsFrom false := by
  constructor
  · intro trace leftovers outcome course
    exact course.of_ask.2.heedful
  · intro trace leftovers failure course kind
    exact course.cancelledBy_of_ask kind

end Plan

/-! ## Waits -/

section Waits

variable {α : Type} {look : Plan (Option α)} {tooLate : Failure} {cancelled : Bool}
  {trace : List Occurrence}

theorem Looking.heedful (minds : look.MindsFrom false) {outcome : Except Failure (Option α)}
    (looking : Looking look cancelled trace outcome) : Heedful cancelled trace := by
  cases looking with
  | cancelled => trivial
  | answered looked => exact minds.heedful looked
  | excused looked => exact heedful_append.mpr ⟨minds.heedful looked, by simp [Heedful,
      Occurrence.startsWork]⟩
  | failed looked => exact minds.heedful looked

theorem Looking.truthful (minds : look.MindsFrom false) {failure : Failure}
    (looking : Looking look cancelled trace (.error failure)) (kind : failure.kind = .cancelled) :
    CancelledBy cancelled trace := by
  cases looking with
  | cancelled => exact .inl rfl
  | failed looked => exact minds.truthful looked kind

/-- Waiting starts no work after a cancellation. -/
theorem Polling.heedful (minds : look.MindsFrom false) {outcome : Except Failure α}
    (polling : Polling look tooLate cancelled trace outcome) : Heedful cancelled trace := by
  induction polling with
  | failed looking => exact looking.heedful minds
  | answered looking => exact looking.heedful minds
  | interrupted looking pausing =>
      refine heedful_append.mpr ⟨looking.heedful minds, ?_⟩
      rcases pausing with rfl | rfl <;> simp [Heedful, Occurrence.startsWork]
  | tooLate looking => exact looking.heedful minds
  | again looking token _ ih =>
      exact heedful_append.mpr ⟨looking.heedful minds, by rwa [token]⟩

/-- Waiting that ends as cancelled was cancelled. -/
theorem Polling.truthful (minds : look.MindsFrom false) (uncancelled : tooLate.kind ≠ .cancelled)
    {outcome : Except Failure α} (polling : Polling look tooLate cancelled trace outcome) :
    ∀ failure, outcome = .error failure → failure.kind = .cancelled →
      CancelledBy cancelled trace := by
  induction polling with
  | failed looking =>
      rintro failure ⟨⟩ kind
      exact looking.truthful minds kind
  | answered => simp
  | interrupted _ _ token =>
      intro failure _ kind
      exact .inl token
  | tooLate =>
      rintro failure ⟨⟩ kind
      exact absurd kind uncancelled
  | again _ token _ ih =>
      intro failure same kind
      refine CancelledBy.append_left ?_
      rw [token]
      exact ih failure same kind

/-- A wait minds the token if its looks do, each of which starts with a token that is not
cancelled. -/
theorem minds_pollUntil {interval : Duration} (positive : 0 < interval) (limit : Duration)
    (minds : look.MindsFrom false) (uncancelled : tooLate.kind ≠ .cancelled) :
    (pollUntil positive limit tooLate look).Minds := by
  intro cancelled
  constructor
  · intro trace leftovers outcome course
    exact (course_pollUntil course).heedful minds
  · intro trace leftovers failure course kind
    exact (course_pollUntil course).truthful minds uncancelled failure rfl kind

/-- A wait ends well with a look that answers, before which the token was not cancelled. -/
theorem Polling.answer {outcome : Except Failure α}
    (polling : Polling look tooLate cancelled trace outcome) :
    ∀ answer, outcome = .ok answer →
      ∃ first last noted, trace = first ++ last ∧ cancelledAfter cancelled first = false ∧
        look.Course false last noted (.ok (some answer)) := by
  induction polling with
  | failed => simp
  | @answered cancelled trace answer looking =>
      rintro answer ⟨⟩
      cases looking with
      | answered looked => exact ⟨[], trace, _, rfl, rfl, looked⟩
  | interrupted => simp
  | tooLate => simp
  | @again cancelled trace more outcome looking token _ ih =>
      intro answer same
      rcases ih answer same with ⟨first, last, noted, rfl, running, looked⟩
      refine ⟨trace ++ first, last, noted, by rw [List.append_assoc], ?_, looked⟩
      rw [cancelledAfter_append, token, running]

end Waits

/-! ## Parts of an attempt -/

namespace Provisioning

variable {α β : Type}

/-- A part of an attempt that minds the token, whatever was created before. -/
structure Minds (part : Provisioning α) : Prop where
  heedful : ∀ {resources : Provisioned} {cancelled : Bool} {trace : List Occurrence}
    {leftovers : List String} {result : Except Failure (Except Failure α × Provisioned)},
    (part resources).Course cancelled trace leftovers result → Heedful cancelled trace
  truthful : ∀ {resources after : Provisioned} {cancelled : Bool} {trace : List Occurrence}
    {leftovers : List String} {failure : Failure},
    (part resources).Course cancelled trace leftovers (.ok (.error failure, after)) →
      failure.kind = .cancelled → CancelledBy cancelled trace

theorem minds_ofExcept {result : Except Failure α}
    (uncancelled : ∀ failure, result = .error failure → failure.kind ≠ .cancelled) :
    (ofExcept result).Minds := by
  constructor
  · intro resources cancelled trace leftovers ended course
    rcases Plan.course_done_iff.mp course with ⟨rfl, -, -⟩
    trivial
  · intro resources after cancelled trace leftovers failure course kind
    rcases Plan.course_done_iff.mp course with ⟨rfl, -, same⟩
    cases same
    exact absurd kind (uncancelled failure rfl)

theorem minds_lift {plan : Plan α} (minds : plan.Minds) : (lift plan).Minds := by
  constructor
  · intro resources cancelled trace leftovers result course
    rcases course.of_attempt_bind with ⟨outcome, first, second, _, _, rfl, rfl, ended, rest⟩
    rcases Plan.course_done_iff.mp rest with ⟨rfl, -, -⟩
    simpa using (minds _).heedful ended
  · intro resources after cancelled trace leftovers failure course kind
    rcases course.of_attempt_bind with ⟨outcome, first, second, _, _, rfl, rfl, ended, rest⟩
    rcases Plan.course_done_iff.mp rest with ⟨rfl, -, same⟩
    cases same
    simpa using (minds _).truthful ended kind

/-- The creation of an object checks the token before it asks for anything. -/
theorem minds_create (cluster : ClusterHandle) (object : ClusterObject) :
    (create cluster object).Minds := by
  constructor
  · intro resources cancelled trace leftovers result course
    rcases course_create course with ⟨-, outcome, creating, -⟩
    cases creating with
    | cancelled => trivial
    | created asking => exact asking.heedful
    | refused asking => exact asking.heedful
  · intro resources after cancelled trace leftovers failure course kind
    rcases course_create course with ⟨-, outcome, creating, same⟩
    cases creating with
    | cancelled => exact .inl rfl
    | created => cases same
    | refused _ provisioning =>
        cases same
        rw [provisioning] at kind
        cases kind

theorem Minds.bind {part : Provisioning α} {next : α → Provisioning β} (first : part.Minds)
    (rest : ∀ value, (next value).Minds) : (part >>= next).Minds := by
  constructor
  · intro resources cancelled trace leftovers result course
    rcases course_bind course with ⟨failure, -, failed⟩ | ⟨failure, after, -, failed⟩ |
      ⟨value, middle, early, late, noted, more, rfl, rfl, done, followed⟩
    · exact first.heedful failed
    · exact first.heedful failed
    · exact heedful_append.mpr ⟨first.heedful done, (rest value).heedful followed⟩
  · intro resources after cancelled trace leftovers failure course kind
    rcases course_bind course with ⟨_, impossible, -⟩ | ⟨_, _, same, failed⟩ |
      ⟨value, middle, early, late, noted, more, rfl, rfl, done, followed⟩
    · cases impossible
    · cases same
      exact first.truthful failed kind
    · exact ((rest value).truthful followed kind).append_left

end Provisioning

/-- Releasing resources is no work that a cancellation could stop. -/
theorem idle_of_release {resources : Provisioned} {cancelled : Bool} {trace : List Occurrence}
    {leftovers : List String} {outcome : Except Failure Unit}
    (course : resources.release.Course cancelled trace leftovers outcome) :
    ∀ exchange ∈ exchanges trace, exchange.call.isWork = false := by
  intro exchange exchange_mem
  have deleted := (Provisioned.course_releaseAll course).2.1
  exact Call.isWork_of_isDelete (isDelete_of_deletions deleted exchange exchange_mem)

/-- An attempt minds the token if its transfer does and accounts for its resources: what comes
after the transfer only deletes. -/
theorem minds_withResources {transfer : Provisioning Unit} (minds : transfer.Minds)
    (accountable : transfer.Accountable) : (withResources transfer).Minds := by
  intro cancelled
  constructor
  · intro trace leftovers outcome course
    rcases course.of_bind with ⟨failure, -, failed⟩ |
      ⟨⟨transferred, resources⟩, work, teardown, noted, more, rfl, rfl, ended, releasing⟩
    · exact minds.heedful failed
    · -- the release does not look at the token, but it only deletes
      refine heedful_append.mpr ⟨minds.heedful ended, releasing.heedful_of_idle ?_⟩
      rcases releasing.of_bind with ⟨failure, -, released⟩ |
        ⟨_, deleting, silent, _, _, rfl, rfl, released, last⟩
      · exact idle_of_release released
      · rcases Plan.course_ofExcept_iff.mp last with ⟨rfl, -, -⟩
        simpa using idle_of_release released
  · intro trace leftovers failure course kind
    rcases course.of_bind with ⟨_, -, failed⟩ |
      ⟨⟨transferred, resources⟩, work, teardown, noted, more, rfl, rfl, ended, releasing⟩
    · rcases accountable _ _ _ _ _ failed with ⟨_, _, impossible, -⟩
      cases impossible
    · rcases releasing.of_bind with ⟨_, -, released⟩ |
        ⟨_, deleting, silent, _, _, rfl, rfl, released, last⟩
      · have impossible := (Provisioned.course_releaseAll released).1
        cases impossible
      · rcases Plan.course_ofExcept_iff.mp last with ⟨rfl, -, rfl⟩
        exact (minds.truthful ended kind).append_right _

end VolumeMigration
