import VolumeMigration.Strategy.Basic
import VolumeMigration.Volume.Probe

/-!
# Probing the volumes of a request

Both volumes are probed, the source first; the first failure ends the probe. `checkedProbe` refuses
volumes that are in use.
-/

namespace VolumeMigration

/-- The use of a volume. -/
def mountStatusOf (cluster : ClusterHandle) (volume : VolumeLocator) : Plan MountStatus := do
  let users ← Plan.ask cluster (.claimUsers volume.ns volume.name)
  return .ofUsers users

/-- The claim of a volume together with its use. -/
def probeVolume (cluster : ClusterHandle) (volume : VolumeLocator) : Plan VolumeProbe := do
  let claim ← Plan.ask cluster (.claim volume.ns volume.name)
  let mount ← mountStatusOf cluster volume
  return { claim, mount }

/-- Both volumes of a request. -/
structure ProbedVolumes where
  source : VolumeProbe
  destination : VolumeProbe
  deriving DecidableEq

/-- Probes both volumes of a request. -/
def probeVolumes (context : AttemptContext) : Plan ProbedVolumes := do
  let sourceCluster ← Plan.ofExcept context.sourceCluster
  let destinationCluster ← Plan.ofExcept context.destinationCluster
  let source ← probeVolume sourceCluster context.request.source
  let destination ← probeVolume destinationCluster context.request.destination
  return { source, destination }

/-- Probes both volumes, and gives the reason to refuse them if one is in use against the will of
the request. -/
def checkedProbe (context : AttemptContext) : Plan (Except String ProbedVolumes) := do
  let volumes ← probeVolumes context
  match mountViolation context.request volumes.source.mount volumes.destination.mount with
  | some reason => return .error reason
  | none => return .ok volumes

/-- The answer of a strategy that applies to every pair of volumes that is not refused. -/
def applicableIfFree (context : AttemptContext) : Plan Applicability := do
  match ← checkedProbe context with
  | .ok _ => return .applicable
  | .error reason => return .notApplicable reason

end VolumeMigration
