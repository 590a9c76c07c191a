import VolumeMigration.Volume.Probe

/-!
# Where one pod can use two volumes

`coMountNode` finds the node for a pod that mounts both volumes of a migration. A volume that is
tied to a node keeps the pod there, unless its claim may be used from many nodes: the source has
to be readable and the destination writable from elsewhere. When the two are tied to different
nodes, the destination moves if it can, and otherwise the source.
-/

namespace VolumeMigration

/-- Why no node can hold both volumes. -/
inductive PlacementConflict where
  /-- A claim for one pod at a time is in use. -/
  | exclusive (side : Side)
  /-- The volumes are tied to different nodes. -/
  | apart (source destination : String)
  deriving DecidableEq

/-- The conflict in one line. -/
def PlacementConflict.text : PlacementConflict → String
  | .exclusive side => side.name ++ " claim is ReadWriteOncePod and already mounted"
  | .apart source destination =>
      "source is tied to node " ++ source ++ " and destination to node " ++ destination

/-- Whether a volume is in use by the only pod that may use it. -/
def VolumeProbe.isTaken (probe : VolumeProbe) : Bool :=
  probe.mount.mounted && probe.claim.accessModes.contains .readWriteOncePod

/-- The node for a pod that mounts both volumes; none leaves the choice to the scheduler. -/
def coMountNode (source destination : VolumeProbe) : Except PlacementConflict (Option String) :=
  if source.isTaken then .error (.exclusive .source)
  else if destination.isTaken then .error (.exclusive .destination)
  else
    match source.node, destination.node with
    | none, none => .ok none
    | some node, none => .ok (some node)
    | none, some node => .ok (some node)
    | some sourceNode, some destinationNode =>
        if sourceNode = destinationNode then .ok (some sourceNode)
        else if destination.claim.writableFromManyNodes then .ok (some sourceNode)
        else if source.claim.readableFromManyNodes then .ok (some destinationNode)
        else .error (.apart sourceNode destinationNode)

end VolumeMigration
