import VolumeMigration.Proofs.Strategy.Transfers

/-!
# Transfers that end well

A transfer ends well only after its pod was created and then read as succeeded, and that look was
taken with a token that was not cancelled: `Transfers.completed_execute` splits every execution
that ends well into a first part with this look, before which the token was not cancelled, and a
rest.
-/

namespace VolumeMigration

/-- Some calls created a pod and read later that it had succeeded. -/
def ReadSucceeded (cluster : ClusterHandle) (pod : ClusterObject) (made : List Exchange) : Prop :=
  ∃ earlier resource later, made = earlier ++ ⟨cluster, .create pod, .ok resource⟩ :: later ∧
    ⟨cluster, .podState resource.ns resource.name, .ok PodState.succeeded⟩ ∈ later

/-- The pod that copies in an attempt, for each strategy of this library. -/
inductive TransferPod (context : AttemptContext) : Strategy → ClusterObject → Prop where
  | mountBoth (node : Option String) :
      TransferPod context mountBoth (.pod (MountBoth.pod context node).toPod)
  | inCluster (node : Option String) (host : String) :
      TransferPod context rsyncInCluster (.pod (Tunnel.copyPod context node host).toPod)
  | crossCluster (node : Option String) (host : String) :
      TransferPod context rsyncCrossCluster (.pod (Tunnel.copyPod context node host).toPod)

/-- Some calls created the pod that copies and read later that it had succeeded. -/
def Completed (context : AttemptContext) (strategy : Strategy) (made : List Exchange) : Prop :=
  ∃ cluster pod, context.sourceCluster = .ok cluster ∧ TransferPod context strategy pod ∧
    ReadSucceeded cluster pod made

theorem ReadSucceeded.append_left {cluster : ClusterHandle} {pod : ClusterObject}
    {made : List Exchange} (read : ReadSucceeded cluster pod made) (before : List Exchange) :
    ReadSucceeded cluster pod (before ++ made) := by
  rcases read with ⟨earlier, resource, later, rfl, look⟩
  exact ⟨before ++ earlier, resource, later, (List.append_assoc _ _ _).symm, look⟩

theorem ReadSucceeded.append_right {cluster : ClusterHandle} {pod : ClusterObject}
    {made : List Exchange} (read : ReadSucceeded cluster pod made) (after : List Exchange) :
    ReadSucceeded cluster pod (made ++ after) := by
  rcases read with ⟨earlier, resource, later, rfl, look⟩
  refine ⟨earlier, resource, later ++ after, ?_, List.mem_append_left _ look⟩
  rw [List.append_assoc, List.cons_append]

theorem Completed.append_left {context : AttemptContext} {strategy : Strategy}
    {made : List Exchange} (completed : Completed context strategy made)
    (before : List Exchange) : Completed context strategy (before ++ made) := by
  rcases completed with ⟨cluster, pod, cluster_eq, transfers, read⟩
  exact ⟨cluster, pod, cluster_eq, transfers, read.append_left before⟩

theorem Completed.append_right {context : AttemptContext} {strategy : Strategy}
    {made : List Exchange} (completed : Completed context strategy made)
    (after : List Exchange) : Completed context strategy (made ++ after) := by
  rcases completed with ⟨cluster, pod, cluster_eq, transfers, read⟩
  exact ⟨cluster, pod, cluster_eq, transfers, read.append_right after⟩

/-! ## In time -/

/-- Some first occurrences, after which the token is not cancelled yet, hold calls with a
property. -/
def InTime (property : List Exchange → Prop) (cancelled : Bool) (trace : List Occurrence) : Prop :=
  ∃ first rest, trace = first ++ rest ∧ cancelledAfter cancelled first = false ∧
    property (exchanges first)

section InTime

variable {property more : List Exchange → Prop} {cancelled : Bool} {first second : List Occurrence}

/-- What happens in time in a later part does so in the whole. -/
theorem InTime.append_left
    (inTime : InTime property (cancelledAfter cancelled first) second)
    (extends_first : ∀ made, property made → more (exchanges first ++ made)) :
    InTime more cancelled (first ++ second) := by
  rcases inTime with ⟨done, rest, rfl, running, holds⟩
  refine ⟨first ++ done, rest, (List.append_assoc _ _ _).symm, by simpa using running, ?_⟩
  rw [exchanges_append]
  exact extends_first _ holds

theorem InTime.append_right (inTime : InTime property cancelled first)
    (second : List Occurrence) : InTime property cancelled (first ++ second) := by
  rcases inTime with ⟨done, rest, rfl, running, holds⟩
  exact ⟨done, rest ++ second, List.append_assoc _ _ _, running, holds⟩

theorem InTime.mono (inTime : InTime property cancelled first)
    (implies : ∀ made, property made → more made) : InTime more cancelled first := by
  rcases inTime with ⟨done, rest, rfl, running, holds⟩
  exact ⟨done, rest, rfl, running, implies _ holds⟩

theorem InTime.later {cluster : ClusterHandle} {pod : ClusterObject}
    (inTime : InTime (ReadSucceeded cluster pod) (cancelledAfter cancelled first) second) :
    InTime (ReadSucceeded cluster pod) cancelled (first ++ second) :=
  inTime.append_left fun _ read => read.append_left _

/-- Before something happens in time the token is not cancelled. -/
theorem InTime.running (inTime : InTime property cancelled first) : cancelled = false := by
  rcases inTime with ⟨done, rest, -, running, -⟩
  simp only [cancelledAfter, Bool.or_eq_false_iff] at running
  exact running.1

/-- What was done in time was done before the token was cancelled. -/
theorem InTime.before_cancellation {later : List Occurrence}
    (inTime : InTime property cancelled (first ++ .cancellation :: later))
    (kept : ∀ made after, property made → property (made ++ after)) :
    property (exchanges first) := by
  rcases inTime with ⟨done, rest, split, running, holds⟩
  rcases List.append_eq_append_iff.mp split with ⟨more, rfl, parted⟩ | ⟨more, rfl, -⟩
  · rcases more with _ | ⟨occurrence, more⟩
    · simpa using holds
    · rw [List.cons_append, List.cons.injEq] at parted
      rw [← parted.1] at running
      simp [Occurrence.isCancellation] at running
  · rw [exchanges_append]
    exact kept _ _ holds

end InTime

/-! ## Waits -/

/-- A wait until a pod has succeeded ends well only with a look that says so. -/
theorem course_waitPodSucceeded {pacing : Pacing} {cluster : ClusterHandle} {pod : ResourceRef}
    {cancelled : Bool} {trace : List Occurrence} {leftovers : List String}
    (course : (waitPodSucceeded pacing cluster pod).Course cancelled trace leftovers (.ok ())) :
    InTime (⟨cluster, .podState pod.ns pod.name, .ok PodState.succeeded⟩ ∈ ·) cancelled
      trace := by
  rcases (course_pollUntil course).answer () rfl with ⟨first, last, _, rfl, running, looked⟩
  rcases course_lookAtPod looked with ⟨state, reached, asking⟩
  rw [completedVerdict_reached reached] at asking
  let look : Occurrence := .exchange cluster (.podState pod.ns pod.name) (.ok PodState.succeeded)
  have last_eq : ∃ more, last = look :: more := by
    rcases asking with rfl | ⟨-, rfl⟩
    · exact ⟨[], rfl⟩
    · exact ⟨[.cancellation], rfl⟩
  rcases last_eq with ⟨more, rfl⟩
  refine ⟨first ++ [look], more, by simp, ?_, ?_⟩
  · rw [cancelledAfter_append, running]
    rfl
  · rw [exchanges_append]
    exact List.mem_append_right _ (List.mem_singleton.mpr rfl)

/-- A wait for a pod that ends well has read in time that the pod succeeded. -/
theorem course_waitPodCompleted {pacing : Pacing} {cluster : ClusterHandle} {pod : ResourceRef}
    {cancelled : Bool} {trace : List Occurrence} {leftovers : List String}
    (course : (waitPodCompleted pacing cluster pod).Course cancelled trace leftovers (.ok ())) :
    InTime (⟨cluster, .podState pod.ns pod.name, .ok PodState.succeeded⟩ ∈ ·) cancelled
      trace := by
  rcases course.of_bind_ok with ⟨_, first, second, _, _, rfl, -, -, succeeded⟩
  exact (course_waitPodSucceeded succeeded).append_left fun _ => List.mem_append_right _

/-! ## Transfers -/

namespace Provisioning

theorem course_lift_ok {α : Type} {plan : Plan α} {resources after : Provisioned}
    {cancelled : Bool} {trace : List Occurrence} {leftovers : List String} {result : α}
    (course : (lift plan resources).Course cancelled trace leftovers (.ok (.ok result, after))) :
    plan.Course cancelled trace leftovers (.ok result) := by
  rcases course.of_attempt_bind with ⟨outcome, first, second, _, _, rfl, rfl, ended, rest⟩
  rcases Plan.course_done_iff.mp rest with ⟨rfl, rfl, same⟩
  cases same
  simpa using ended

/-- A pod that is created and waited for was read as succeeded if all ends well. -/
theorem course_copied {pacing : Pacing} {cluster : ClusterHandle} {pod : ClusterObject}
    {resources after : Provisioned} {cancelled : Bool} {trace : List Occurrence}
    {leftovers : List String}
    (course : ((create cluster pod >>= fun created =>
      lift (waitPodCompleted pacing cluster created)) resources).Course cancelled trace leftovers
        (.ok (.ok (), after))) :
    InTime (ReadSucceeded cluster pod) cancelled trace := by
  rcases course_bind_ok course with
    ⟨resource, _, first, second, _, _, rfl, -, created, waited⟩
  rcases course_create created with ⟨-, outcome, creating, same⟩
  cases creating with
  | cancelled => cases same
  | refused => cases same
  | created asking =>
      cases same
      refine (course_waitPodCompleted (course_lift_ok waited)).append_left fun made look => ?_
      rw [asking.exchanges]
      exact ⟨[], resource, made, rfl, look⟩

end Provisioning

open Provisioning

/-- A transfer in one pod that ends well has read in time that the pod succeeded. -/
theorem MountBoth.course_transfer {context : AttemptContext} {resources after : Provisioned}
    {cancelled : Bool} {trace : List Occurrence} {leftovers : List String}
    (course : (transfer context resources).Course cancelled trace leftovers
      (.ok (.ok (), after))) :
    ∃ cluster node, context.sourceCluster = .ok cluster ∧
      InTime (ReadSucceeded cluster (.pod (pod context node).toPod)) cancelled trace := by
  rcases course_ofExcept_bind course with ⟨_, -, -, impossible⟩ | ⟨cluster, found, probing⟩
  · cases impossible
  · rcases course_bind_ok probing with ⟨node, _, first, second, _, _, rfl, -, -, copied⟩
    exact ⟨cluster, node, found, (course_copied copied).later⟩

/-- A transfer through a relay that ends well has read in time that the pod that copies succeeded.
-/
theorem Tunnel.course_transfer {exposure : Exposure} {context : AttemptContext}
    {resources after : Provisioned} {cancelled : Bool} {trace : List Occurrence}
    {leftovers : List String}
    (course : (transfer exposure context resources).Course cancelled trace leftovers
      (.ok (.ok (), after))) :
    ∃ cluster node host, context.sourceCluster = .ok cluster ∧
      InTime (ReadSucceeded cluster (.pod (copyPod context node host).toPod)) cancelled
        trace := by
  rcases course_ofExcept_bind course with ⟨_, -, -, impossible⟩ | ⟨cluster, found, placed⟩
  · cases impossible
  rcases course_ofExcept_bind placed with ⟨_, -, -, impossible⟩ | ⟨_, -, probing⟩
  · cases impossible
  rcases course_bind_ok probing with ⟨nodes, _, probe, rest, _, _, rfl, -, -, opening⟩
  rcases course_bind_ok opening with ⟨host, _, relay, copy, _, _, rfl, -, -, keyed⟩
  rcases course_bind_ok keyed with ⟨_, _, key, last, _, _, rfl, -, -, copied⟩
  exact ⟨cluster, nodes.1, host, found, (course_copied copied).later.later.later⟩

/-- Whatever the clusters answer, a transfer ends well only after its pod was read as succeeded
in time. -/
theorem Transfers.completed {strategy : Strategy} {transfer : AttemptContext → Provisioning Unit}
    (transfers : Transfers strategy transfer) {context : AttemptContext}
    {resources after : Provisioned} {cancelled : Bool} {trace : List Occurrence}
    {leftovers : List String}
    (course : (transfer context resources).Course cancelled trace leftovers
      (.ok (.ok (), after))) :
    InTime (Completed context strategy) cancelled trace := by
  cases transfers with
  | mountBoth =>
      rcases MountBoth.course_transfer course with ⟨cluster, node, found, inTime⟩
      exact inTime.mono fun _ read => ⟨cluster, _, found, .mountBoth node, read⟩
  | inCluster =>
      rcases Tunnel.course_transfer course with ⟨cluster, node, host, found, inTime⟩
      exact inTime.mono fun _ read => ⟨cluster, _, found, .inCluster node host, read⟩
  | crossCluster =>
      rcases Tunnel.course_transfer course with ⟨cluster, node, host, found, inTime⟩
      exact inTime.mono fun _ read => ⟨cluster, _, found, .crossCluster node host, read⟩

/-- An execution that ends well has read in time that the pod that copies succeeded. -/
theorem Transfers.completed_execute {strategy : Strategy}
    {transfer : AttemptContext → Provisioning Unit} (transfers : Transfers strategy transfer)
    {context : AttemptContext} {cancelled : Bool} {trace : List Occurrence}
    {leftovers : List String}
    (course : (strategy.execute context).Course cancelled trace leftovers (.ok ())) :
    InTime (Completed context strategy) cancelled trace := by
  rw [transfers.execute_eq] at course
  rcases course.of_bind_ok with
    ⟨⟨transferred, resources⟩, work, teardown, _, _, rfl, -, ended, releasing⟩
  rcases releasing.of_bind_ok with ⟨_, deleting, silent, _, _, rfl, -, -, last⟩
  rcases Plan.course_ofExcept_iff.mp last with ⟨-, -, rfl⟩
  exact (transfers.completed ended).append_right _

end VolumeMigration
