import Mathlib.Control.Monad.Basic
import VolumeMigration.Proofs.Plan.Course
import VolumeMigration.Wait

/-!
# The calls of a plan

`exchanges` collects the calls that were made, with their results. `Plan.Within allowed` says that
a plan only makes allowed calls, whatever it is answered, and notes nothing as left over; all its
courses keep to that (`Plan.Course.within`).
-/

namespace VolumeMigration

/-- A call to a cluster with its result. -/
structure Exchange where
  cluster : ClusterHandle
  call : Call
  result : Except Failure call.Answer
  deriving DecidableEq

/-- The exchange that an occurrence is. -/
def Occurrence.exchange? : Occurrence → Option Exchange
  | .exchange cluster call result => some ⟨cluster, call, result⟩
  | _ => none

/-- The calls of a history with their results, in order. -/
def exchanges (trace : List Occurrence) : List Exchange :=
  trace.filterMap Occurrence.exchange?

@[simp]
theorem exchanges_nil : exchanges [] = [] :=
  rfl

@[simp]
theorem exchanges_append (first second : List Occurrence) :
    exchanges (first ++ second) = exchanges first ++ exchanges second :=
  List.filterMap_append

/-- A call is among the exchanges if it occurred with its result. -/
theorem mem_exchanges {trace : List Occurrence} {exchange : Exchange} :
    exchange ∈ exchanges trace ↔
      .exchange exchange.cluster exchange.call exchange.result ∈ trace := by
  simp only [exchanges, List.mem_filterMap]
  constructor
  · rintro ⟨occurrence, occurrence_mem, found⟩
    cases occurrence with
    | exchange cluster call result =>
        simp only [Occurrence.exchange?, Option.some.injEq] at found
        subst found
        exact occurrence_mem
    | _ => simp [Occurrence.exchange?] at found
  · intro mem
    exact ⟨_, mem, rfl⟩

/-- A call that is asked leaves exactly one exchange. -/
theorem Plan.Asking.exchanges {cluster : ClusterHandle} {call : Call}
    {result : Except Failure call.Answer} {cancelled : Bool} {trace : List Occurrence}
    (asking : Asking cluster call result cancelled trace) :
    exchanges trace = [⟨cluster, call, result⟩] := by
  rcases asking with rfl | ⟨-, rfl⟩ <;> rfl

namespace Call

/-- Whether a call reads a claim or its users. -/
def isProbe : Call → Bool
  | .claim _ _ | .claimUsers _ _ => true
  | _ => false

/-- Whether a call asks for an object. -/
def isCreate : Call → Bool
  | .create _ => true
  | _ => false

/-- Whether a call asks to delete an object. -/
def isDelete : Call → Bool
  | .delete _ => true
  | _ => false

/-- Whether a call looks at an object that a migration created. -/
def isLook : Call → Bool
  | .podState _ _ | .serviceIngress _ _ => true
  | _ => false

/-- Whether a call changes nothing in its cluster. -/
def isRead (call : Call) : Bool :=
  call.isProbe || call.isLook

theorem isRead_of_isProbe {call : Call} (probe : call.isProbe = true) : call.isRead = true := by
  simp [isRead, probe]

theorem isRead_of_isLook {call : Call} (look : call.isLook = true) : call.isRead = true := by
  simp [isRead, look]

/-- Whether a call creates an object or looks at one. -/
def isWork (call : Call) : Bool :=
  call.isCreate || call.isLook

theorem isProbe_of_isWork {call : Call} (work : call.isWork = true) : call.isProbe = false := by
  cases call <;> simp_all [isWork, isProbe, isCreate, isLook]

theorem isWork_of_isDelete {call : Call} (delete : call.isDelete = true) :
    call.isWork = false := by
  cases call <;> simp_all [isWork, isDelete, isCreate, isLook]

theorem isCreate_of_isDelete {call : Call} (delete : call.isDelete = true) :
    call.isCreate = false := by
  cases call <;> simp_all [isDelete, isCreate]

theorem isCreate_of_isRead {call : Call} (read : call.isRead = true) : call.isCreate = false := by
  cases call <;> simp_all [isRead, isProbe, isLook, isCreate]

theorem isCreate_of_isProbe {call : Call} (probe : call.isProbe = true) :
    call.isCreate = false :=
  isCreate_of_isRead (isRead_of_isProbe probe)

end Call

/-- An action makes allowed calls only, and notes nothing that is left over. -/
def Action.Within (allowed : Call → Bool) : Action → Prop
  | .ask _ call => allowed call = true
  | .noteLeftover _ => False
  | _ => True

/-- A plan that makes no calls but allowed ones, and notes nothing as left over. -/
def Plan.Within {α : Type} (allowed : Call → Bool) : Plan α → Prop
  | .done _ | .fail _ => True
  | .step action next => action.Within allowed ∧ ∀ reply, (next reply).Within allowed

/-- An action within some calls leaves only such calls in the history. -/
theorem Action.Effect.within {allowed : Call → Bool} {action : Action} {cancelled : Bool}
    {reply : action.Reply} {trace : List Occurrence} {noted : List String}
    (effect : action.Effect cancelled reply trace noted) (within : action.Within allowed) :
    noted = [] ∧ ∀ exchange ∈ exchanges trace, allowed exchange.call = true := by
  cases effect <;> simp_all [Action.Within, exchanges, Occurrence.exchange?]

namespace Plan

variable {α β : Type} {allowed : Call → Bool}

/-- A plan stays within some calls if its parts do. -/
theorem Within.bind {plan : Plan α} {next : α → Plan β} (first : plan.Within allowed)
    (rest : ∀ value, (next value).Within allowed) : (plan.bind next).Within allowed := by
  induction plan with
  | done value => exact rest value
  | fail failure => trivial
  | step action more ih => exact ⟨first.1, fun reply => ih reply (first.2 reply)⟩

theorem Within.attempt {plan : Plan α} (within : plan.Within allowed) :
    plan.attempt.Within allowed := by
  induction plan with
  | done value => trivial
  | fail failure => trivial
  | step action rest ih => exact ⟨within.1, fun reply => ih reply (within.2 reply)⟩

theorem Within.mono {more : Call → Bool} {plan : Plan α}
    (within : plan.Within allowed) (implies : ∀ call, allowed call = true → more call = true) :
    plan.Within more := by
  induction plan with
  | done value => trivial
  | fail failure => trivial
  | step action rest ih =>
      refine ⟨?_, fun reply => ih reply (within.2 reply)⟩
      have here := within.1
      cases action with
      | ask cluster call => exact implies call here
      | noteLeftover failure => exact here
      | _ => trivial

theorem within_ofExcept (result : Except Failure α) : (ofExcept result).Within allowed := by
  cases result <;> trivial

theorem within_ask (cluster : ClusterHandle) {call : Call} (permitted : allowed call = true) :
    (ask cluster call).Within allowed :=
  ⟨permitted, within_ofExcept⟩

theorem within_checkToken : checkToken.Within allowed := by
  refine ⟨trivial, ?_⟩
  rintro (_ | _) <;> trivial

theorem within_pause (length : Duration) : (pause length).Within allowed := by
  refine ⟨trivial, ?_⟩
  rintro (_ | _) <;> trivial

theorem within_warn (message : String) : (warn message).Within allowed :=
  ⟨trivial, fun _ => trivial⟩

/-- All calls in a course of a plan are allowed, and nothing is left over. -/
theorem Course.within {plan : Plan α} {cancelled : Bool} {trace : List Occurrence}
    {leftovers : List String} {outcome : Except Failure α}
    (course : plan.Course cancelled trace leftovers outcome) (within : plan.Within allowed) :
    leftovers = [] ∧ ∀ exchange ∈ exchanges trace, allowed exchange.call = true := by
  induction course with
  | done => simp
  | fail => simp
  | step effect _ ih =>
      rcases effect.within within.1 with ⟨rfl, first⟩
      rcases ih (within.2 _) with ⟨rfl, rest⟩
      refine ⟨rfl, fun exchange exchange_mem => ?_⟩
      rw [exchanges_append, List.mem_append] at exchange_mem
      exact exchange_mem.elim (first exchange) (rest exchange)

end Plan

/-! ## Waits -/

section Polling

variable {α : Type} {allowed : Call → Bool} {look : Plan (Option α)}

theorem within_lookOnce (within : look.Within allowed) : (lookOnce look).Within allowed := by
  refine Plan.within_checkToken.bind fun _ => within.attempt.bind fun answer => ?_
  rcases answer with failure | answer
  · dsimp only
    split
    · exact (Plan.within_warn _).bind fun _ => trivial
    · trivial
  · trivial

/-- Waiting stays within the calls of its looks. -/
theorem within_pollUntil {interval : Duration} (positive : 0 < interval) (limit : Duration)
    (tooLate : Failure) (within : look.Within allowed) :
    (pollUntil positive limit tooLate look).Within allowed := by
  induction limit using Duration.induct positive with
  | step limit ih =>
      rw [pollUntil_eq]
      refine (within_lookOnce within).bind fun answer => ?_
      rcases answer with _ | answer
      · simp only [goOn]
        split
        next again => exact (Plan.within_pause _).bind fun _ => ih again
        next => exact (Plan.within_pause _).bind fun _ => trivial
      · trivial

end Polling

end VolumeMigration
