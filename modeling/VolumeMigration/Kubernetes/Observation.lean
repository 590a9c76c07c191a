import VolumeMigration.Kubernetes.Object
import VolumeMigration.Volume.Claim

/-!
# What Kubernetes objects tell

The pods that use a claim, the node that a volume is pinned to, the state of a pod and the address
of a service, as the objects of a cluster show them.
-/

namespace VolumeMigration

/-- The label that names the manager of an object. -/
def managedByLabel : String := "app.kubernetes.io/managed-by"

/-- The manager of the objects that a migration creates. -/
def managerName : String := "pv-migrate"

/-- The node label that holds the name of the host. -/
def hostnameLabel : String := "kubernetes.io/hostname"

namespace Pod

/-- The volumes of a pod. -/
def volumes (pod : Pod) : List Volume :=
  (pod.spec.bind PodSpec.volumes).getD []

/-- Whether a volume of the pod refers to a claim. -/
def refersTo (pod : Pod) (claim : String) : Bool :=
  pod.volumes.any fun volume => volume.persistentVolumeClaim.any (·.claimName = claim)

/-- The labels of a pod. -/
def labels (pod : Pod) : Labels :=
  pod.metadata.labels.getD []

/-- Whether a pod was created by this program, as its labels tell. -/
def isManaged (pod : Pod) : Bool :=
  pod.labels.lookup managedByLabel = some managerName

/-- The phase of a pod, which is unknown if none is told. -/
def phase (pod : Pod) : PodPhase :=
  PodPhase.parse (pod.status.bind PodStatus.phase)

/-- A pod as the user of a claim. -/
def toUser (pod : Pod) : ClaimUser :=
  { pod := pod.metadata.name.getD ""
    node := pod.spec.bind PodSpec.nodeName
    phase := pod.phase
    managed := pod.isManaged }

/-- The users of a claim among some pods. -/
def usersOf (pods : List Pod) (claim : String) : List ClaimUser :=
  (pods.filter (·.refersTo claim)).map toUser

/-- The state of a pod. A pod without a status has not started. A pending pod tells the reason of
its first container that waits for one, a failed pod the exit of its first ended container. -/
def state (pod : Pod) : PodState :=
  match pod.status with
  | none => .pending none
  | some status =>
      let containers := status.containerStatuses.getD []
      match pod.phase with
      | .pending =>
          .pending (containers.findSome? fun container =>
            container.state.bind fun state => state.waiting.bind WaitingState.reason)
      | .running => .running (!containers.isEmpty && containers.all ContainerStatus.ready)
      | .succeeded => .succeeded
      | .failed =>
          let ended := containers.findSome? fun container =>
            container.state.bind ContainerState.terminated
          .failed (ended.map TerminatedState.exitCode)
            ((ended.bind TerminatedState.reason).or status.reason)
      | .unknown => .unknown

end Pod

namespace PersistentVolume

/-- The terms of which a node must satisfy one to reach the volume. -/
def nodeTerms (volume : PersistentVolume) : List NodeSelectorTerm :=
  ((volume.spec.bind PersistentVolumeSpec.nodeAffinity).bind VolumeNodeAffinity.required).elim []
    NodeSelector.terms

/-- The node that a volume is pinned to: the only value of the first requirement that the host
name be among given ones. -/
def pinnedNode (volume : PersistentVolume) : Option String :=
  let requirements := volume.nodeTerms.flatMap fun term => term.matchExpressions.getD []
  let onHost := requirements.find? fun requirement =>
    requirement.key = hostnameLabel && requirement.operator = "In"
  onHost.bind fun requirement =>
    match requirement.values with
    | some [node] => some node
    | _ => none

end PersistentVolume

namespace Service

/-- The points at which a load balancer exposes the service. -/
def ingressPoints (service : Service) : List IngressPoint :=
  ((service.status.bind ServiceStatus.loadBalancer).bind LoadBalancerStatus.ingress).getD []

/-- The first address of a service: an IP address or else a host name. -/
def ingressAddress (service : Service) : Option String :=
  service.ingressPoints.findSome? fun point => point.ip.or point.hostname

end Service

end VolumeMigration
