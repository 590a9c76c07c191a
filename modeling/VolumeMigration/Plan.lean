import VolumeMigration.Cluster.Call
import VolumeMigration.Event.Report

/-!
# Plans

A plan is what an attempt does, step by step: it asks clusters, looks at the cancellation token,
lets time pass, logs, and notes resources that were left over. What it does next may depend on the
replies. A plan ends with a value or with a failure; it holds no state, so every behaviour of the
clusters is a way to run it (`Plan.run`).

`Plan.bind` continues a plan that ends with a value, and `Plan.attempt` turns a failure into a
value.
-/

namespace VolumeMigration

/-- One step of a plan. -/
inductive Action where
  /-- Ask a cluster. -/
  | ask (cluster : ClusterHandle) (call : Call)
  /-- Look whether the token is cancelled. -/
  | lookAtToken
  /-- Cancel the token. -/
  | cancelToken
  /-- Let time pass, at most until the token is cancelled. -/
  | pause (length : Duration)
  /-- Write a line to the log. -/
  | log (record : LogRecord)
  /-- Note that a resource was left over. -/
  | noteLeftover (failure : String)

/-- The type of the reply to a step. A pause replies whether its whole length has passed. -/
def Action.Reply : Action → Type
  | .ask _ call => Except Failure call.Answer
  | .lookAtToken => Bool
  | .cancelToken => Unit
  | .pause _ => Bool
  | .log _ => Unit
  | .noteLeftover _ => Unit

/-- A plan that ends with a value of type `α` or fails. -/
inductive Plan (α : Type) where
  | done (value : α)
  | fail (failure : Failure)
  | step (action : Action) (next : action.Reply → Plan α)

namespace Plan

variable {α β γ : Type}

/-- Continues a plan that ends with a value. -/
def bind : Plan α → (α → Plan β) → Plan β
  | .done value, next => next value
  | .fail failure, _ => .fail failure
  | .step action rest, next => .step action fun reply => (rest reply).bind next

instance : Monad Plan where
  pure := .done
  bind := bind

/-- Turns a failure into a value. -/
def attempt : Plan α → Plan (Except Failure α)
  | .done value => .done (.ok value)
  | .fail failure => .done (.error failure)
  | .step action rest => .step action fun reply => (rest reply).attempt

/-- The plan that ends like a result. -/
def ofExcept : Except Failure α → Plan α
  | .ok value => .done value
  | .error failure => .fail failure

/-- Asks a cluster and fails if the call fails. -/
def ask (cluster : ClusterHandle) (call : Call) : Plan call.Answer :=
  .step (.ask cluster call) ofExcept

/-- Writes a warning to the log. -/
def warn (message : String) : Plan Unit :=
  .step (.log ⟨.warn, message⟩) .done

/-- Fails if the token is cancelled. -/
def checkToken : Plan Unit :=
  .step .lookAtToken fun (cancelled : Bool) => if cancelled then .fail .cancelled else .done ()

/-- Lets time pass; fails at the moment at which the token is cancelled. -/
def pause (length : Duration) : Plan Unit :=
  .step (.pause length) fun (passed : Bool) => if passed then .done () else .fail .cancelled

/-- Notes that a resource was left over. -/
def noteLeftover (failure : String) : Plan Unit :=
  .step (.noteLeftover failure) .done

@[simp]
theorem pure_eq_done (value : α) : (pure value : Plan α) = .done value :=
  rfl

@[simp]
theorem bind_eq_bind (plan : Plan α) (next : α → Plan β) : plan >>= next = plan.bind next :=
  rfl

@[simp]
theorem bind_done (plan : Plan α) : plan.bind .done = plan := by
  induction plan with
  | done value => rfl
  | fail failure => rfl
  | step action rest ih => simp [bind, ih]

/-- It does not matter in which order plans that follow each other are joined. -/
theorem bind_assoc (plan : Plan α) (next : α → Plan β) (last : β → Plan γ) :
    (plan.bind next).bind last = plan.bind fun value => (next value).bind last := by
  induction plan with
  | done value => rfl
  | fail failure => rfl
  | step action rest ih => simp [bind, ih]

end Plan

end VolumeMigration
