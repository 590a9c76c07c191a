import VolumeMigration.Resource
import VolumeMigration.Transfer.Pacing
import VolumeMigration.World

/-!
# Bounded waits

A wait looks at a state at once and then again after every interval, as long as a limit allows. A
look that answers ends the wait, and so does a failure, except that failures of the cluster are
taken for passing: they are logged and the wait goes on. Before every look the token is checked,
and its cancellation ends a pause at once. When the limit passes without an answer the wait fails
in a way of its own; a look that is due at that very moment still counts.
-/

namespace VolumeMigration

section Polling

variable {α : Type}

/-- One look: a failure of the cluster is logged and answers nothing. -/
def lookOnce (look : Plan (Option α)) : Plan (Option α) := do
  Plan.checkToken
  match ← look.attempt with
  | .ok answer => return answer
  | .error failure =>
      if failure.kind = .cluster then
        Plan.warn ("Failed to poll status: " ++ failure.message)
        return none
      else Plan.fail failure

/-- Looks at a state until it answers or the limit has passed. After a look without an answer the
next one races with the limit: either the interval passes, and as much less of the limit remains, or
the limit passes first. -/
def pollUntil {interval : Duration} (positive : 0 < interval) (limit : Duration)
    (tooLate : Failure) (look : Plan (Option α)) : Plan α := do
  match ← lookOnce look with
  | some answer => return answer
  | none =>
      if interval ≤ limit then
        Plan.pause interval
        pollUntil positive (limit - interval) tooLate look
      else
        Plan.pause limit
        Plan.fail tooLate
termination_by limit
decreasing_by exact Nat.sub_lt (Nat.lt_of_lt_of_le positive ‹interval ≤ limit›) positive

/-- What a wait does with the answer to a look when some of its limit remains. -/
def goOn {interval : Duration} (positive : 0 < interval) (limit : Duration) (tooLate : Failure)
    (look : Plan (Option α)) : Option α → Plan α
  | some answer => .done answer
  | none =>
      if interval ≤ limit then
        (Plan.pause interval).bind fun _ => pollUntil positive (limit - interval) tooLate look
      else (Plan.pause limit).bind fun _ => .fail tooLate

/-- A wait looks and goes on. -/
theorem pollUntil_eq {interval : Duration} (positive : 0 < interval) (limit : Duration)
    (tooLate : Failure) (look : Plan (Option α)) :
    pollUntil positive limit tooLate look =
      (lookOnce look).bind (goOn positive limit tooLate look) := by
  rw [pollUntil]
  congr 1

end Polling

/-! ## Waiting for pods and services -/

/-- The reasons of a waiting container that more waiting will not change. -/
def fatalWaitingReasons : List String :=
  ["InvalidImageName", "CreateContainerConfigError", "CreateContainerError"]

/-- The exit of a failed pod, in words. -/
def describeExit (exitCode : Option Int) (reason : Option String) : String :=
  match exitCode, reason with
  | some code, some reason => "exit code " ++ toString code ++ " (" ++ reason ++ ")"
  | some code, none => "exit code " ++ toString code
  | none, some reason => reason
  | none, none => "pod failed"

/-- What a state means for a wait. -/
inductive Verdict where
  /-- The awaited state is reached. -/
  | reached
  /-- It may still be reached. -/
  | waiting
  /-- It cannot be reached any more. -/
  | hopeless (failure : Failure)
  deriving DecidableEq

/-- The plan that a verdict calls for. -/
def Verdict.toPlan : Verdict → Plan (Option Unit)
  | .reached => return some ()
  | .waiting => return none
  | .hopeless failure => Plan.fail failure

/-- A failure of a pod before it started. -/
def podNotStarted (name reason : String) : Failure :=
  .provisioning ("pod " ++ name) reason

/-- What a state means for a wait until a pod is ready. -/
def readyVerdict (name : String) : PodState → Verdict
  | .running true => .reached
  | .pending (some reason) =>
      if reason ∈ fatalWaitingReasons then .hopeless (podNotStarted name reason) else .waiting
  | .succeeded | .failed _ _ => .hopeless (podNotStarted name "exited before becoming ready")
  | .gone => .hopeless (podNotStarted name "deleted before it started")
  | .running false | .pending none | .unknown => .waiting

/-- What a state means for a wait until a pod has started. -/
def startedVerdict (name : String) : PodState → Verdict
  | .pending (some reason) =>
      if reason ∈ fatalWaitingReasons then .hopeless (podNotStarted name reason) else .waiting
  | .pending none | .unknown => .waiting
  | .gone => .hopeless (podNotStarted name "deleted before it started")
  | .running _ | .succeeded | .failed _ _ => .reached

/-- What a state means for a wait until a started pod has succeeded. -/
def completedVerdict (name : String) : PodState → Verdict
  | .succeeded => .reached
  | .failed exitCode reason => .hopeless (.transfer name (describeExit exitCode reason))
  | .gone => .hopeless (.transfer name "pod no longer exists")
  | .pending _ | .running _ | .unknown => .waiting

/-- Looks at the state of a pod. -/
def lookAtPod (cluster : ClusterHandle) (pod : ResourceRef) (verdict : PodState → Verdict) :
    Plan (Option Unit) := do
  let state ← Plan.ask cluster (.podState pod.ns pod.name)
  (verdict state).toPlan

/-- Waits until all containers of a pod are ready. -/
def waitPodReady (pacing : Pacing) (cluster : ClusterHandle) (pod : ResourceRef) : Plan Unit :=
  pollUntil pacing.pollInterval_pos pacing.readinessLimit
    (.notReady pod.text pacing.readinessLimit)
    (lookAtPod cluster pod (readyVerdict pod.name))

/-- Waits until a pod has started. -/
def waitPodStarted (pacing : Pacing) (cluster : ClusterHandle) (pod : ResourceRef) : Plan Unit :=
  pollUntil pacing.pollInterval_pos pacing.readinessLimit
    (.notReady pod.text pacing.readinessLimit)
    (lookAtPod cluster pod (startedVerdict pod.name))

/-- Waits until a pod that has started has succeeded. -/
def waitPodSucceeded (pacing : Pacing) (cluster : ClusterHandle) (pod : ResourceRef) :
    Plan Unit :=
  pollUntil pacing.pollInterval_pos pacing.transferLimit
    (.transfer pod.name ("did not finish within " ++ Duration.text pacing.transferLimit))
    (lookAtPod cluster pod (completedVerdict pod.name))

/-- Waits until a pod that runs to its end has succeeded: first until it starts, then until it
ends. -/
def waitPodCompleted (pacing : Pacing) (cluster : ClusterHandle) (pod : ResourceRef) :
    Plan Unit := do
  waitPodStarted pacing cluster pod
  waitPodSucceeded pacing cluster pod

/-- Waits until a service has an external address. -/
def waitServiceIngress (pacing : Pacing) (cluster : ClusterHandle) (service : ResourceRef) :
    Plan String :=
  pollUntil pacing.pollInterval_pos pacing.readinessLimit
    (.notReady service.text pacing.readinessLimit)
    (Plan.ask cluster (.serviceIngress service.ns service.name))

end VolumeMigration
