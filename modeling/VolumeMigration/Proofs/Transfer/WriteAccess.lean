import VolumeMigration.Proofs.Transfer.Wiring

/-!
# Which claims a pod may write to

A pod may write to a claim if one of its volumes attaches the claim without being read-only, or if a
container mounts a volume of the claim in such a way (`Pod.writableClaims`). The pods of a transfer
may write to the destination at most.
-/

namespace VolumeMigration

namespace Pod

/-- The claims that the volumes of a pod attach without being read-only. -/
def writableVolumes (pod : Pod) : List String :=
  pod.volumes.filterMap fun volume =>
    (volume.persistentVolumeClaim.filter (·.readOnly ≠ some true)).map ClaimSource.claimName

/-- The claims of the volumes that the containers of a pod mount without being read-only. -/
def writableMounts (pod : Pod) : List String :=
  (pod.mounted.filter (·.1.readOnly ≠ some true)).filterMap fun (_, volume) =>
    volume.persistentVolumeClaim.map ClaimSource.claimName

/-- The claims that a pod may write to, through a volume or a mount that is not read-only. -/
def writableClaims (pod : Pod) : List String :=
  pod.writableVolumes ++ pod.writableMounts

end Pod

theorem MountBothPod.writableClaims_toPod (pod : MountBothPod) :
    pod.toPod.writableClaims = [pod.destinationClaim, pod.destinationClaim] :=
  rfl

theorem SshdPod.writableClaims_toPod (pod : SshdPod) :
    pod.toPod.writableClaims = [pod.destinationClaim, pod.destinationClaim] :=
  rfl

/-- A pod that copies to a host may write nowhere. -/
theorem RsyncPod.writableClaims_toPod (pod : RsyncPod) : pod.toPod.writableClaims = [] :=
  rfl

end VolumeMigration
