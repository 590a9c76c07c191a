import VolumeMigration.Provisioning
import VolumeMigration.Strategy.Probing
import VolumeMigration.Transfer.Manifest
import VolumeMigration.Volume.Placement
import VolumeMigration.Wait

/-!
# One pod mounts both volumes

Within one namespace of one cluster a single pod can mount both claims and copy locally, if a node
can hold both volumes.
-/

namespace VolumeMigration

namespace MountBoth

/-- The name of the strategy. -/
def name : String := "mount-both"

/-- Whether one pod can mount both volumes. -/
def applicable (context : AttemptContext) : Plan Applicability := do
  let request := context.request
  if ¬request.source.SameCluster request.destination then
    return .notApplicable "source and destination are in different clusters"
  else if ¬request.source.SameNamespace request.destination then
    return .notApplicable "source and destination are in different namespaces"
  else
    match ← checkedProbe context with
    | .error reason => return .notApplicable reason
    | .ok volumes =>
        match coMountNode volumes.source volumes.destination with
        | .error conflict => return .notApplicable conflict.text
        | .ok _ => return .applicable

/-- A refusal to create the pod. -/
def refused (reason : String) : Failure :=
  .provisioning "mount-both pod" reason

/-- The node for the pod; both volumes are probed again. -/
def chooseNode (context : AttemptContext) : Plan (Option String) := do
  match ← checkedProbe context with
  | .error reason => Plan.fail (refused reason)
  | .ok volumes =>
      match coMountNode volumes.source volumes.destination with
      | .error conflict => Plan.fail (refused conflict.text)
      | .ok node => return node

/-- The pod that mounts both volumes. -/
def pod (context : AttemptContext) (node : Option String) : MountBothPod :=
  { name := context.resourceName "mount-both"
    ns := context.request.source.ns
    attemptId := context.attemptId
    image := context.request.rsyncImage
    sourceClaim := context.request.source.name
    destinationClaim := context.request.destination.name
    node
    script := (transferScript context.request.options context.pacing .mounted).text }

/-- Creates the pod and waits until it has copied. -/
def transfer (context : AttemptContext) : Provisioning Unit := do
  let cluster ← .ofExcept context.sourceCluster
  let node ← .lift (chooseNode context)
  let created ← .create cluster (.pod (pod context node).toPod)
  .lift (waitPodCompleted context.pacing cluster created)

end MountBoth

/-- The strategy that mounts both volumes in one pod. -/
def mountBoth : Strategy :=
  { name := MountBoth.name
    applicable := MountBoth.applicable
    execute := fun context => withResources (MountBoth.transfer context) }

end VolumeMigration
