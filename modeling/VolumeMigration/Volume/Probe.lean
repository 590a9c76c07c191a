import VolumeMigration.Request
import VolumeMigration.Volume.Claim

/-!
# Probing a volume

A probe joins what a cluster knows about a claim with whether the claim is in use. Pods that have
ended and pods that a migration created do not count as users. Unless the request says otherwise,
a volume that is in use is refused (`mountViolation`).
-/

namespace VolumeMigration

/-- Whether a user keeps the claim in use: it has not ended and no migration created it. -/
def ClaimUser.isLive (user : ClaimUser) : Bool :=
  !user.managed && !user.phase.isTerminal

/-- The status that the users of a claim show: that of the first live user. -/
def MountStatus.ofUsers (users : List ClaimUser) : MountStatus :=
  match users.find? ClaimUser.isLive with
  | none => .free
  | some user => { mounted := true, node := user.node, pod := some user.pod }

/-- A claim together with its use. -/
structure VolumeProbe where
  claim : ClaimInfo
  mount : MountStatus
  deriving DecidableEq

/-- The node that a volume is tied to: where it is in use, or else where it is pinned. -/
def VolumeProbe.node (probe : VolumeProbe) : Option String :=
  probe.mount.node.or probe.claim.pinnedNode

/-- The two ends of a migration. -/
inductive Side where
  | source
  | destination
  deriving DecidableEq

/-- The side as messages show it. -/
def Side.name : Side → String
  | .source => "source"
  | .destination => "destination"

/-- The user of a volume that is in use, as messages show it. -/
def MountStatus.describe (status : MountStatus) (side : Side) (volume : VolumeLocator) : String :=
  side.name ++ " " ++ volume.text ++ " is mounted by pod " ++ status.pod.getD "<unknown>" ++
    " on node " ++ status.node.getD "<unscheduled>"

/-- The reason to refuse a request because a volume is in use. -/
def mountViolation (request : Request) (source destination : MountStatus) : Option String :=
  if request.options.ignoreMounted then none
  else
    let reasons :=
      (if source.mounted then [source.describe .source request.source] else []) ++
        if destination.mounted then [destination.describe .destination request.destination]
        else []
    if reasons = [] then none
    else some (String.intercalate ", " reasons ++ " (ignore-mounted is off)")

end VolumeMigration
