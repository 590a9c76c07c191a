import VolumeMigration.Proofs.Plan.Looks
import VolumeMigration.Strategy.Registry

/-!
# What the strategies call

The strategies of this library evaluate by probing the volumes, and execute a transfer whose
resources are released (`Transfers`). A transfer probes the volumes, creates objects and looks at
them; whatever comes of it, it accounts for what it created.
-/

namespace VolumeMigration

/-- The transfer that a strategy of this library executes. -/
inductive Transfers : Strategy → (AttemptContext → Provisioning Unit) → Prop where
  | mountBoth : Transfers mountBoth MountBoth.transfer
  | inCluster : Transfers rsyncInCluster (Tunnel.transfer .clusterIp)
  | crossCluster : Transfers rsyncCrossCluster (Tunnel.transfer .loadBalancer)

/-- Every strategy of this library has its transfer. -/
theorem Transfers.of_builtin {strategy : Strategy}
    (builtin : strategy ∈ StrategyRegistry.builtin.strategies) :
    ∃ transfer, Transfers strategy transfer := by
  simp only [StrategyRegistry.builtin, List.mem_cons, List.not_mem_nil, or_false] at builtin
  rcases builtin with rfl | rfl | rfl
  · exact ⟨_, .mountBoth⟩
  · exact ⟨_, .inCluster⟩
  · exact ⟨_, .crossCluster⟩

/-- A strategy executes its transfer and then releases what that created. -/
theorem Transfers.execute_eq {strategy : Strategy}
    {transfer : AttemptContext → Provisioning Unit} (transfers : Transfers strategy transfer)
    (context : AttemptContext) : strategy.execute context = withResources (transfer context) := by
  cases transfers <;> rfl

/-! ## Probes -/

theorem within_mountStatusOf (cluster : ClusterHandle) (volume : VolumeLocator) :
    (mountStatusOf cluster volume).Within Call.isProbe :=
  (Plan.within_ask cluster rfl).bind fun _ => trivial

theorem within_probeVolume (cluster : ClusterHandle) (volume : VolumeLocator) :
    (probeVolume cluster volume).Within Call.isProbe :=
  (Plan.within_ask cluster rfl).bind fun _ =>
    (within_mountStatusOf cluster volume).bind fun _ => trivial

theorem within_probeVolumes (context : AttemptContext) :
    (probeVolumes context).Within Call.isProbe :=
  (Plan.within_ofExcept _).bind fun sourceCluster =>
    (Plan.within_ofExcept _).bind fun destinationCluster =>
      (within_probeVolume sourceCluster _).bind fun _ =>
        (within_probeVolume destinationCluster _).bind fun _ => trivial

theorem within_checkedProbe (context : AttemptContext) :
    (checkedProbe context).Within Call.isProbe := by
  refine (within_probeVolumes context).bind fun volumes => ?_
  split <;> trivial

theorem within_applicableIfFree (context : AttemptContext) :
    (applicableIfFree context).Within Call.isProbe := by
  refine (within_checkedProbe context).bind fun answer => ?_
  cases answer <;> trivial

theorem MountBoth.within_applicable (context : AttemptContext) :
    (MountBoth.applicable context).Within Call.isProbe := by
  unfold MountBoth.applicable
  dsimp only
  split
  · trivial
  · split
    · trivial
    · refine (within_checkedProbe context).bind fun answer => ?_
      rcases answer with reason | volumes
      · trivial
      · dsimp only
        split <;> trivial

/-- A strategy of this library evaluates by probing only. -/
theorem Transfers.within_applicable {strategy : Strategy}
    {transfer : AttemptContext → Provisioning Unit} (transfers : Transfers strategy transfer)
    (context : AttemptContext) : (strategy.applicable context).Within Call.isProbe := by
  cases transfers with
  | mountBoth => exact MountBoth.within_applicable context
  | inCluster =>
      dsimp only [rsyncInCluster]
      split
      · exact within_applicableIfFree context
      · trivial
  | crossCluster => exact within_applicableIfFree context

theorem MountBoth.within_chooseNode (context : AttemptContext) :
    (chooseNode context).Within Call.isProbe := by
  refine (within_checkedProbe context).bind fun answer => ?_
  rcases answer with reason | volumes
  · trivial
  · dsimp only
    split <;> trivial

theorem Tunnel.within_probeNodes (context : AttemptContext) :
    (probeNodes context).Within Call.isProbe := by
  refine (within_checkedProbe context).bind fun answer => ?_
  cases answer <;> trivial

/-! ## Looks -/

theorem Tunnel.within_relayHost (context : AttemptContext) (cluster : ClusterHandle)
    (created : ResourceRef) (exposure : Exposure) :
    (relayHost context cluster created exposure).Within Call.isLook := by
  cases exposure with
  | clusterIp => trivial
  | loadBalancer => exact within_pollUntil _ _ _ (Plan.within_ask cluster rfl)

/-! ## Transfers -/

namespace Provisioning

theorem accountable_probe {α : Type} {plan : Plan α} (probes : plan.Within Call.isProbe) :
    (lift plan).Accountable :=
  accountable_lift (probes.mono fun _ => Call.isRead_of_isProbe)

theorem accountable_look {α : Type} {plan : Plan α} (looks : plan.Within Call.isLook) :
    (lift plan).Accountable :=
  accountable_lift (looks.mono fun _ => Call.isRead_of_isLook)

end Provisioning

open Provisioning

/-- A transfer in one pod accounts for the pod. -/
theorem MountBoth.accountable_transfer (context : AttemptContext) :
    (transfer context).Accountable :=
  (accountable_ofExcept _).bind fun cluster =>
    (accountable_probe (within_chooseNode context)).bind fun _ =>
      (accountable_create cluster _).bind fun pod =>
        accountable_look (within_waitPodCompleted _ cluster pod rfl)

theorem Tunnel.accountable_openRelay (context : AttemptContext) (exposure : Exposure)
    (cluster : ClusterHandle) (node : Option String) :
    (openRelay context exposure cluster node).Accountable :=
  (accountable_create cluster _).bind fun _ =>
    (accountable_create cluster _).bind fun relay =>
      (accountable_create cluster _).bind fun service =>
        (accountable_look (within_waitPodReady _ cluster relay rfl)).bind fun _ =>
          accountable_look (within_relayHost context cluster service exposure)

theorem Tunnel.accountable_copyTo (context : AttemptContext) (cluster : ClusterHandle)
    (node : Option String) (host : String) : (copyTo context cluster node host).Accountable :=
  (accountable_create cluster _).bind fun _ =>
    (accountable_create cluster _).bind fun pod =>
      accountable_look (within_waitPodCompleted _ cluster pod rfl)

/-- A transfer through a relay accounts for all of its objects, however far it gets. -/
theorem Tunnel.accountable_transfer (exposure : Exposure) (context : AttemptContext) :
    (transfer exposure context).Accountable :=
  (accountable_ofExcept _).bind fun sourceCluster =>
    (accountable_ofExcept _).bind fun destinationCluster =>
      (accountable_probe (within_probeNodes context)).bind fun nodes =>
        (accountable_openRelay context exposure destinationCluster nodes.2).bind fun host =>
          accountable_copyTo context sourceCluster nodes.1 host

/-- The transfer of every strategy accounts for what it creates. -/
theorem Transfers.accountable {strategy : Strategy}
    {transfer : AttemptContext → Provisioning Unit} (transfers : Transfers strategy transfer)
    (context : AttemptContext) : (transfer context).Accountable := by
  cases transfers with
  | mountBoth => exact MountBoth.accountable_transfer context
  | inCluster => exact Tunnel.accountable_transfer .clusterIp context
  | crossCluster => exact Tunnel.accountable_transfer .loadBalancer context

end VolumeMigration
