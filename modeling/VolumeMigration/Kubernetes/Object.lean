/-!
# Kubernetes objects

The objects that a migration creates or reads, with the fields that it sets or looks at. Optional
fields are absent unless they are given; the others always have a value. `ClusterObject` is an
object that a migration can create.
-/

namespace VolumeMigration

/-- Labels of an object: names with their values. -/
abbrev Labels := List (String × String)

/-- What all objects have in common. -/
structure ObjectMeta where
  name : Option String
  ns : Option String
  labels : Option Labels
  deriving DecidableEq

/-- The metadata of an object that gives none. -/
def ObjectMeta.none : ObjectMeta := { name := .none, ns := .none, labels := .none }

/-- A port by its number or its name. -/
inductive PortRef where
  | number (value : Int)
  | name (value : String)
  deriving DecidableEq

/-! ## Pods -/

/-- A variable of a container's environment. -/
structure EnvVar where
  name : String
  value : Option String
  deriving DecidableEq

/-- A port that a container listens on. -/
structure ContainerPort where
  name : Option String
  containerPort : Int
  deriving DecidableEq

/-- A check that opens a connection to a port, made at an interval. -/
structure Probe where
  tcpPort : Option PortRef
  periodSeconds : Option Int
  deriving DecidableEq

/-- Where a container sees a volume of its pod. -/
structure VolumeMount where
  name : String
  mountPath : String
  readOnly : Option Bool
  deriving DecidableEq

/-- A container of a pod. -/
structure Container where
  name : String
  image : Option String
  command : Option (List String)
  env : Option (List EnvVar)
  ports : Option (List ContainerPort)
  readinessProbe : Option Probe
  volumeMounts : Option (List VolumeMount)
  deriving DecidableEq

/-- A claim as the source of a volume. -/
structure ClaimSource where
  claimName : String
  readOnly : Option Bool
  deriving DecidableEq

/-- A key of a secret as a file. -/
structure KeyToPath where
  key : String
  path : String
  mode : Option Int
  deriving DecidableEq

/-- A secret as the source of a volume. -/
structure SecretSource where
  secretName : Option String
  defaultMode : Option Int
  items : Option (List KeyToPath)
  deriving DecidableEq

/-- A volume of a pod. -/
structure Volume where
  name : String
  persistentVolumeClaim : Option ClaimSource
  secret : Option SecretSource
  deriving DecidableEq

/-- A requirement on the value of a label or field of a node. -/
structure NodeRequirement where
  key : String
  operator : String
  values : Option (List String)
  deriving DecidableEq

/-- Requirements that must hold together. -/
structure NodeSelectorTerm where
  matchExpressions : Option (List NodeRequirement)
  matchFields : Option (List NodeRequirement)
  deriving DecidableEq

/-- Terms of which one must hold. -/
structure NodeSelector where
  terms : List NodeSelectorTerm
  deriving DecidableEq

/-- Where a pod may run: the nodes that the required selector admits. -/
structure Affinity where
  requiredNodes : Option NodeSelector
  deriving DecidableEq

/-- What a pod is meant to be. -/
structure PodSpec where
  containers : List Container
  volumes : Option (List Volume)
  restartPolicy : Option String
  affinity : Option Affinity
  nodeName : Option String
  deriving DecidableEq

/-- A container that waits to start. -/
structure WaitingState where
  reason : Option String
  deriving DecidableEq

/-- A container that ended. -/
structure TerminatedState where
  exitCode : Int
  reason : Option String
  deriving DecidableEq

/-- What a container does at the moment. -/
structure ContainerState where
  waiting : Option WaitingState
  terminated : Option TerminatedState
  deriving DecidableEq

/-- What is observed of a container. -/
structure ContainerStatus where
  ready : Bool
  state : Option ContainerState
  deriving DecidableEq

/-- What is observed of a pod. -/
structure PodStatus where
  phase : Option String
  reason : Option String
  containerStatuses : Option (List ContainerStatus)
  deriving DecidableEq

/-- A pod. -/
structure Pod where
  metadata : ObjectMeta
  spec : Option PodSpec
  status : Option PodStatus
  deriving DecidableEq

/-! ## Services and secrets -/

/-- A port of a service and the port of its pods that it leads to. -/
structure ServicePort where
  name : Option String
  port : Int
  targetPort : Option PortRef
  protocol : Option String
  deriving DecidableEq

/-- What a service is meant to be. -/
structure ServiceSpec where
  serviceType : Option String
  selector : Option Labels
  ports : Option (List ServicePort)
  deriving DecidableEq

/-- An address that a load balancer assigned. -/
structure IngressPoint where
  ip : Option String
  hostname : Option String
  deriving DecidableEq

/-- What a load balancer assigned to a service. -/
structure LoadBalancerStatus where
  ingress : Option (List IngressPoint)
  deriving DecidableEq

/-- What is observed of a service. -/
structure ServiceStatus where
  loadBalancer : Option LoadBalancerStatus
  deriving DecidableEq

/-- A service. -/
structure Service where
  metadata : ObjectMeta
  spec : Option ServiceSpec
  status : Option ServiceStatus
  deriving DecidableEq

/-- A secret: texts under keys. -/
structure Secret where
  metadata : ObjectMeta
  stringData : Option (List (String × String))
  deriving DecidableEq

/-! ## Claims and volumes -/

/-- What a claim is meant to be. -/
structure ClaimSpec where
  accessModes : Option (List String)
  /-- The volume that the claim is bound to. -/
  volumeName : Option String
  deriving DecidableEq

/-- A claim on a persistent volume. -/
structure PersistentVolumeClaim where
  metadata : ObjectMeta
  spec : Option ClaimSpec
  deriving DecidableEq

/-- The nodes from which a volume can be reached. -/
structure VolumeNodeAffinity where
  required : Option NodeSelector
  deriving DecidableEq

/-- What a persistent volume is. -/
structure PersistentVolumeSpec where
  nodeAffinity : Option VolumeNodeAffinity
  deriving DecidableEq

/-- A persistent volume. -/
structure PersistentVolume where
  metadata : ObjectMeta
  spec : Option PersistentVolumeSpec
  deriving DecidableEq

/-! ## Objects to create -/

/-- An object that a migration can create. -/
inductive ClusterObject where
  | pod (pod : Pod)
  | service (service : Service)
  | secret (secret : Secret)
  deriving DecidableEq

/-- The metadata of an object of any kind. -/
def ClusterObject.metadata : ClusterObject → ObjectMeta
  | .pod object => object.metadata
  | .service object => object.metadata
  | .secret object => object.metadata

end VolumeMigration
