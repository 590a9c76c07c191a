import VolumeMigration.Proofs.Cluster.Directory
import VolumeMigration.Proofs.Plan.Heed
import VolumeMigration.Proofs.Strategy.Transfers

/-!
# The strategies mind the token

Probes do not look at the token, but they neither create nor look at anything that a migration
created. Everything else that a strategy of this library does checks the token first, so that its
evaluation and its execution mind the token (`Transfers.minds`).
-/

namespace VolumeMigration

/-! ## Probes -/

theorem minds_mountStatusOf (cluster : ClusterHandle) (volume : VolumeLocator) :
    (mountStatusOf cluster volume).Minds :=
  (Plan.minds_ask cluster rfl).bind fun _ => Plan.minds_done _

theorem minds_probeVolume (cluster : ClusterHandle) (volume : VolumeLocator) :
    (probeVolume cluster volume).Minds :=
  (Plan.minds_ask cluster rfl).bind fun _ =>
    (minds_mountStatusOf cluster volume).bind fun _ => Plan.minds_done _

theorem minds_probeVolumes (context : AttemptContext) : (probeVolumes context).Minds :=
  (Plan.minds_ofExcept fun _ => ClusterSet.kind_of_get).bind fun sourceCluster =>
    (Plan.minds_ofExcept fun _ => ClusterSet.kind_of_get).bind fun destinationCluster =>
      (minds_probeVolume sourceCluster _).bind fun _ =>
        (minds_probeVolume destinationCluster _).bind fun _ => Plan.minds_done _

theorem minds_checkedProbe (context : AttemptContext) : (checkedProbe context).Minds := by
  refine (minds_probeVolumes context).bind fun volumes => ?_
  split <;> exact Plan.minds_done _

theorem minds_applicableIfFree (context : AttemptContext) :
    (applicableIfFree context).Minds := by
  refine (minds_checkedProbe context).bind fun answer => ?_
  cases answer <;> exact Plan.minds_done _

theorem MountBoth.minds_applicable (context : AttemptContext) :
    (MountBoth.applicable context).Minds := by
  unfold MountBoth.applicable
  dsimp only
  split
  · exact Plan.minds_done _
  · split
    · exact Plan.minds_done _
    · refine (minds_checkedProbe context).bind fun answer => ?_
      rcases answer with reason | volumes
      · exact Plan.minds_done _
      · dsimp only
        split <;> exact Plan.minds_done _

/-- The evaluation of a strategy minds the token. -/
theorem Transfers.minds_applicable {strategy : Strategy}
    {transfer : AttemptContext → Provisioning Unit} (transfers : Transfers strategy transfer)
    (context : AttemptContext) : (strategy.applicable context).Minds := by
  cases transfers with
  | mountBoth => exact MountBoth.minds_applicable context
  | inCluster =>
      dsimp only [rsyncInCluster]
      split
      · exact minds_applicableIfFree context
      · exact Plan.minds_done _
  | crossCluster => exact minds_applicableIfFree context

theorem MountBoth.minds_chooseNode (context : AttemptContext) : (chooseNode context).Minds := by
  refine (minds_checkedProbe context).bind fun answer => ?_
  rcases answer with reason | volumes
  · exact Plan.minds_fail (by simp [refused, Failure.kind])
  · dsimp only
    split
    · exact Plan.minds_fail (by simp [refused, Failure.kind])
    · exact Plan.minds_done _

theorem Tunnel.minds_probeNodes (context : AttemptContext) : (probeNodes context).Minds := by
  refine (minds_checkedProbe context).bind fun answer => ?_
  cases answer with
  | error reason => exact Plan.minds_fail (by simp [Failure.kind])
  | ok volumes => exact Plan.minds_done _

/-! ## Looks -/

/-- A look at a pod minds the token while that is not cancelled, if what is hopeless is not a
cancellation. -/
theorem mindsFrom_lookAtPod (cluster : ClusterHandle) (pod : ResourceRef)
    {verdict : PodState → Verdict}
    (uncancelled : ∀ state failure, verdict state = .hopeless failure →
      failure.kind ≠ .cancelled) : (lookAtPod cluster pod verdict).MindsFrom false := by
  refine (Plan.mindsFrom_ask cluster _).bind fun state => ?_
  cases judged : verdict state with
  | reached => exact Plan.minds_done _
  | waiting => exact Plan.minds_done _
  | hopeless failure => exact Plan.minds_fail (uncancelled state failure judged)

theorem readyVerdict_uncancelled (name : String) (state : PodState) (failure : Failure)
    (judged : readyVerdict name state = .hopeless failure) : failure.kind ≠ .cancelled := by
  unfold readyVerdict at judged
  split at judged <;> (try split at judged) <;> cases judged <;>
    simp [podNotStarted, Failure.kind]

theorem startedVerdict_uncancelled (name : String) (state : PodState) (failure : Failure)
    (judged : startedVerdict name state = .hopeless failure) : failure.kind ≠ .cancelled := by
  unfold startedVerdict at judged
  split at judged <;> (try split at judged) <;> cases judged <;>
    simp [podNotStarted, Failure.kind]

theorem completedVerdict_uncancelled (name : String) (state : PodState) (failure : Failure)
    (judged : completedVerdict name state = .hopeless failure) : failure.kind ≠ .cancelled := by
  unfold completedVerdict at judged
  split at judged <;> cases judged <;> simp [Failure.kind]

theorem minds_waitPodReady (pacing : Pacing) (cluster : ClusterHandle) (pod : ResourceRef) :
    (waitPodReady pacing cluster pod).Minds :=
  minds_pollUntil _ _ (mindsFrom_lookAtPod cluster pod (readyVerdict_uncancelled _))
    (by simp [Failure.kind])

/-- Both phases of waiting for a copying pod mind the token. -/
theorem minds_waitPodCompleted (pacing : Pacing) (cluster : ClusterHandle) (pod : ResourceRef) :
    (waitPodCompleted pacing cluster pod).Minds := by
  have started : (waitPodStarted pacing cluster pod).Minds :=
    minds_pollUntil _ _ (mindsFrom_lookAtPod cluster pod (startedVerdict_uncancelled _))
      (by simp [Failure.kind])
  have succeeded : (waitPodSucceeded pacing cluster pod).Minds :=
    minds_pollUntil _ _ (mindsFrom_lookAtPod cluster pod (completedVerdict_uncancelled _))
      (by simp [Failure.kind])
  exact started.bind fun _ => succeeded

theorem Tunnel.minds_relayHost (context : AttemptContext) (cluster : ClusterHandle)
    (created : ResourceRef) (exposure : Exposure) :
    (relayHost context cluster created exposure).Minds := by
  cases exposure with
  | clusterIp => exact Plan.minds_done _
  | loadBalancer =>
      exact minds_pollUntil _ _ (Plan.mindsFrom_ask cluster _) (by simp [Failure.kind])

/-! ## Transfers -/

open Provisioning

theorem MountBoth.minds_transfer (context : AttemptContext) : (transfer context).Minds :=
  (Provisioning.minds_ofExcept fun _ => ClusterSet.kind_of_get).bind fun cluster =>
    (minds_lift (minds_chooseNode context)).bind fun _ =>
      (minds_create cluster _).bind fun pod =>
        minds_lift (minds_waitPodCompleted _ cluster pod)

theorem Tunnel.minds_openRelay (context : AttemptContext) (exposure : Exposure)
    (cluster : ClusterHandle) (node : Option String) :
    (openRelay context exposure cluster node).Minds :=
  (minds_create cluster _).bind fun _ =>
    (minds_create cluster _).bind fun relay =>
      (minds_create cluster _).bind fun service =>
        (minds_lift (minds_waitPodReady _ cluster relay)).bind fun _ =>
          minds_lift (minds_relayHost context cluster service exposure)

theorem Tunnel.minds_copyTo (context : AttemptContext) (cluster : ClusterHandle)
    (node : Option String) (host : String) : (copyTo context cluster node host).Minds :=
  (minds_create cluster _).bind fun _ =>
    (minds_create cluster _).bind fun pod =>
      minds_lift (minds_waitPodCompleted _ cluster pod)

/-- A transfer through a relay minds the token in all of its parts. -/
theorem Tunnel.minds_transfer (exposure : Exposure) (context : AttemptContext) :
    (transfer exposure context).Minds :=
  (Provisioning.minds_ofExcept fun _ => ClusterSet.kind_of_get).bind fun sourceCluster =>
    (Provisioning.minds_ofExcept fun _ => ClusterSet.kind_of_get).bind fun destinationCluster =>
      (minds_lift (minds_probeNodes context)).bind fun nodes =>
        (minds_openRelay context exposure destinationCluster nodes.2).bind fun host =>
          minds_copyTo context sourceCluster nodes.1 host

/-- A strategy whose evaluation and execution mind the token. -/
structure Strategy.Minds (strategy : Strategy) : Prop where
  evaluation : ∀ context, (strategy.applicable context).Minds
  execution : ∀ context, (strategy.execute context).Minds

/-- The strategies of this library mind the token. -/
theorem Transfers.minds {strategy : Strategy} {transfer : AttemptContext → Provisioning Unit}
    (transfers : Transfers strategy transfer) : strategy.Minds := by
  refine ⟨transfers.minds_applicable, fun context => ?_⟩
  rw [transfers.execute_eq]
  refine minds_withResources ?_ (transfers.accountable context)
  cases transfers with
  | mountBoth => exact MountBoth.minds_transfer context
  | inCluster => exact Tunnel.minds_transfer .clusterIp context
  | crossCluster => exact Tunnel.minds_transfer .loadBalancer context

end VolumeMigration
