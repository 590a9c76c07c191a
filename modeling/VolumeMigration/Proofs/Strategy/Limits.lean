import VolumeMigration.Proofs.Plan.Limits
import VolumeMigration.Proofs.Strategy.Transfers

/-!
# How long the strategies take

An evaluation takes no time. An execution waits until what it needs is ready, once or several
times (`ReadinessWaits`), and then for the end of the copy.
-/

namespace VolumeMigration

/-- How many times an execution of a strategy waits at most until something is ready. -/
inductive ReadinessWaits : Strategy → Nat → Prop where
  | mountBoth : ReadinessWaits mountBoth 1
  | inCluster : ReadinessWaits rsyncInCluster 2
  | crossCluster : ReadinessWaits rsyncCrossCluster 3

/-- No strategy waits more than three times for something to get ready. -/
theorem ReadinessWaits.of_builtin {strategy : Strategy}
    (builtin : strategy ∈ StrategyRegistry.builtin.strategies) :
    ∃ waits, ReadinessWaits strategy waits ∧ waits ≤ 3 := by
  simp only [StrategyRegistry.builtin, List.mem_cons, List.not_mem_nil, or_false] at builtin
  rcases builtin with rfl | rfl | rfl
  · exact ⟨1, .mountBoth, by decide⟩
  · exact ⟨2, .inCluster, by decide⟩
  · exact ⟨3, .crossCluster, by decide⟩

namespace Pacing

/-- The limits of an execution that waits a number of times until something is ready. -/
def limits (pacing : Pacing) (waits : Nat) : List Duration :=
  List.replicate waits pacing.readinessLimit ++ [pacing.transferLimit]

/-- The looks that fit into the limits of such an execution. -/
def looks (pacing : Pacing) (waits : Nat) : Nat :=
  waits * (pacing.readinessLimit / pacing.pollInterval + 1) +
    (pacing.transferLimit / pacing.pollInterval + 1)

theorem sum_limits (pacing : Pacing) (waits : Nat) :
    (pacing.limits waits).sum = waits * pacing.readinessLimit + pacing.transferLimit := by
  simp [limits]

theorem looksWithin_limits (pacing : Pacing) (waits : Nat) :
    pacing.looksWithin (pacing.limits waits) = pacing.looks waits := by
  simp [looksWithin, limits, looks]

end Pacing

section Limits

variable {σ : Type} {environment : Environment σ}

/-! ## Probes -/

theorem prompt_mountStatusOf (cluster : ClusterHandle) (volume : VolumeLocator) :
    (mountStatusOf cluster volume).Prompt environment 1 :=
  (Plan.prompt_ask cluster (.claimUsers volume.ns volume.name) rfl).bind fun _ =>
    Plan.prompt_done _

theorem prompt_probeVolume (cluster : ClusterHandle) (volume : VolumeLocator) :
    (probeVolume cluster volume).Prompt environment 2 :=
  (Plan.prompt_ask cluster (.claim volume.ns volume.name) rfl).bind fun _ =>
    (prompt_mountStatusOf cluster volume).bind fun _ => Plan.prompt_done _

theorem prompt_probeVolumes (context : AttemptContext) :
    (probeVolumes context).Prompt environment 4 :=
  (Plan.prompt_ofExcept _).bind fun sourceCluster =>
    (Plan.prompt_ofExcept _).bind fun destinationCluster =>
      (prompt_probeVolume sourceCluster _).bind fun _ =>
        (prompt_probeVolume destinationCluster _).bind fun _ => Plan.prompt_done _

theorem prompt_checkedProbe (context : AttemptContext) :
    (checkedProbe context).Prompt environment 4 := by
  refine (prompt_probeVolumes context).bind fun volumes => (?_ : Plan.Prompt environment _ 0)
  split <;> exact Plan.prompt_done _

theorem prompt_applicableIfFree (context : AttemptContext) :
    (applicableIfFree context).Prompt environment 4 := by
  refine (prompt_checkedProbe context).bind fun answer => (?_ : Plan.Prompt environment _ 0)
  cases answer <;> exact Plan.prompt_done _

theorem MountBoth.prompt_applicable (context : AttemptContext) :
    (MountBoth.applicable context).Prompt environment 4 := by
  unfold MountBoth.applicable
  dsimp only
  split
  · exact (Plan.prompt_done _).mono (Nat.zero_le 4)
  · split
    · exact (Plan.prompt_done _).mono (Nat.zero_le 4)
    · refine (prompt_checkedProbe context).bind fun answer => (?_ : Plan.Prompt environment _ 0)
      rcases answer with reason | volumes
      · exact Plan.prompt_done _
      · dsimp only
        split <;> exact Plan.prompt_done _

/-- The evaluation of a strategy makes at most four calls and waits for nothing. -/
theorem Transfers.prompt_applicable {strategy : Strategy}
    {transfer : AttemptContext → Provisioning Unit} (transfers : Transfers strategy transfer)
    (context : AttemptContext) : (strategy.applicable context).Prompt environment 4 := by
  cases transfers with
  | mountBoth => exact MountBoth.prompt_applicable context
  | inCluster =>
      dsimp only [rsyncInCluster]
      split
      · exact prompt_applicableIfFree context
      · exact (Plan.prompt_done _).mono (Nat.zero_le 4)
  | crossCluster => exact prompt_applicableIfFree context

theorem MountBoth.prompt_chooseNode (context : AttemptContext) :
    (chooseNode context).Prompt environment 4 := by
  refine (prompt_checkedProbe context).bind fun answer => (?_ : Plan.Prompt environment _ 0)
  rcases answer with reason | volumes
  · exact Plan.prompt_fail _
  · dsimp only
    split
    · exact Plan.prompt_fail _
    · exact Plan.prompt_done _

theorem Tunnel.prompt_probeNodes (context : AttemptContext) :
    (probeNodes context).Prompt environment 4 := by
  refine (prompt_checkedProbe context).bind fun answer => (?_ : Plan.Prompt environment _ 0)
  cases answer with
  | error reason => exact Plan.prompt_fail _
  | ok volumes => exact Plan.prompt_done _

/-! ## Transfers -/

open Provisioning

variable {context : AttemptContext}

/-- A copying pod may take the readiness limit to start and the transfer limit to end. -/
theorem limited_waitPodCompleted {pacing : Pacing} (cluster : ClusterHandle) (pod : ResourceRef) :
    (waitPodCompleted pacing cluster pod).Limited environment pacing (pacing.limits 1) 0 :=
  (Plan.limited_wait (.podStarted cluster pod)).bind fun _ =>
    Plan.limited_wait (.podSucceeded cluster pod)

theorem MountBoth.limited_transfer :
    (transfer context).Limited environment context.pacing (context.pacing.limits 1) 5 :=
  (limited_ofExcept _).bind fun cluster =>
    (limited_lift (Plan.limited_of_prompt (prompt_chooseNode context))).bind fun _ =>
      (limited_create cluster _).bind fun pod =>
        limited_lift (limited_waitPodCompleted cluster pod)

/-- The limits of the waits until a relay can be reached. -/
def Tunnel.relayLimits (pacing : Pacing) : Exposure → List Duration
  | .clusterIp => [pacing.readinessLimit]
  | .loadBalancer => [pacing.readinessLimit, pacing.readinessLimit]

/-- A relay may take the readiness limit, and so may the host of its service. -/
theorem Tunnel.limited_openRelay (exposure : Exposure) (cluster : ClusterHandle)
    (node : Option String) :
    (openRelay context exposure cluster node).Limited environment context.pacing
      (relayLimits context.pacing exposure) 3 := by
  cases exposure with
  | clusterIp =>
      exact (limited_create cluster _).bind fun _ =>
        (limited_create cluster _).bind fun relay =>
          (limited_create cluster _).bind fun _ =>
            (limited_lift (Plan.limited_wait (.podReady cluster relay))).bind fun _ =>
              limited_lift (Plan.limited_of_prompt (Plan.prompt_done _))
  | loadBalancer =>
      exact (limited_create cluster _).bind fun _ =>
        (limited_create cluster _).bind fun relay =>
          (limited_create cluster _).bind fun service =>
            (limited_lift (Plan.limited_wait (.podReady cluster relay))).bind fun _ =>
              limited_lift (Plan.limited_wait (.serviceIngress cluster service))

theorem Tunnel.limited_copyTo (cluster : ClusterHandle) (node : Option String) (host : String) :
    (copyTo context cluster node host).Limited environment context.pacing
      (context.pacing.limits 1) 2 :=
  (limited_create cluster _).bind fun _ =>
    (limited_create cluster _).bind fun pod =>
      limited_lift (limited_waitPodCompleted cluster pod)

/-- A transfer through a relay makes nine calls besides its looks. -/
theorem Tunnel.limited_transfer (exposure : Exposure) :
    (transfer exposure context).Limited environment context.pacing
      (relayLimits context.pacing exposure ++ context.pacing.limits 1) 9 :=
  (limited_ofExcept _).bind fun sourceCluster =>
    (limited_ofExcept _).bind fun destinationCluster =>
      (limited_lift (Plan.limited_of_prompt (prompt_probeNodes context))).bind fun nodes =>
        (limited_openRelay exposure destinationCluster nodes.2).bind fun host =>
          limited_copyTo sourceCluster nodes.1 host

/-- An execution of a strategy keeps to its limits, and makes no more than eighteen calls besides
its looks. -/
theorem ReadinessWaits.limited_execute {strategy : Strategy} {waits : Nat}
    (readinessWaits : ReadinessWaits strategy waits) (context : AttemptContext) :
    (strategy.execute context).Limited environment context.pacing
      (context.pacing.limits waits) 18 := by
  cases readinessWaits with
  | mountBoth =>
      have transfer_limited : (MountBoth.transfer context).Limited environment context.pacing
          (context.pacing.limits 1) 5 := MountBoth.limited_transfer
      have limited := limited_withResources (MountBoth.accountable_transfer context)
        transfer_limited
      exact limited.mono (by decide)
  | inCluster =>
      exact limited_withResources (Tunnel.accountable_transfer .clusterIp context)
        (Tunnel.limited_transfer .clusterIp)
  | crossCluster =>
      exact limited_withResources (Tunnel.accountable_transfer .loadBalancer context)
        (Tunnel.limited_transfer .loadBalancer)

end Limits

end VolumeMigration
