import VolumeMigration.Transfer.Manifest

/-!
# How the objects of a transfer refer to each other

A service leads to the pods whose labels its selector matches. A pod sees keys of secrets as files
and claims as directories, and runs a script. The views here read these references off any object,
whoever wrote it.
-/

namespace VolumeMigration

/-- The keys that a volume asks for, with the name of their secret. -/
def Volume.secretItems (volume : Volume) : List (String × KeyToPath) :=
  (volume.secret.bind fun source =>
    source.secretName.map fun secret => (source.items.getD []).map (secret, ·)).getD []

/-- A key of a secret that a container sees as a file. -/
structure SecretFile where
  secret : String
  key : String
  path : String
  deriving DecidableEq

namespace Pod

/-- The containers of a pod. -/
def containers (pod : Pod) : List Container :=
  pod.spec.elim [] PodSpec.containers

/-- The ports that the containers of a pod listen on. -/
def containerPorts (pod : Pod) : List Int :=
  pod.containers.flatMap fun container =>
    (container.ports.getD []).map ContainerPort.containerPort

/-- The volumes that the containers of a pod mount, each with the way it is mounted. -/
def mounted (pod : Pod) : List (VolumeMount × Volume) :=
  (pod.containers.flatMap fun container => container.volumeMounts.getD []).filterMap fun mount =>
    (pod.volumes.find? (·.name = mount.name)).map (mount, ·)

/-- The claims that the containers of a pod see, with their directories. -/
def claimPaths (pod : Pod) : List (String × String) :=
  pod.mounted.filterMap fun (mount, volume) =>
    volume.persistentVolumeClaim.map fun source => (source.claimName, mount.mountPath)

/-- The keys that the volumes of a pod ask for, with the names of their secrets. -/
def wantedKeys (pod : Pod) : List (String × String) :=
  (pod.volumes.flatMap Volume.secretItems).map fun (secret, item) => (secret, item.key)

/-- The keys of secrets that the containers of a pod see, with their files. -/
def secretFiles (pod : Pod) : List SecretFile :=
  pod.mounted.flatMap fun (mount, volume) =>
    volume.secretItems.map fun (secret, item) =>
      { secret, key := item.key, path := mount.mountPath ++ "/" ++ item.path }

/-- The scripts that the containers of a pod run. -/
def scripts (pod : Pod) : List String :=
  pod.containers.filterMap fun container =>
    match container.command with
    | some ["sh", "-c", script] => some script
    | _ => none

end Pod

namespace Service

/-- The labels that a service looks for. -/
def selector (service : Service) : Labels :=
  (service.spec.bind ServiceSpec.selector).getD []

/-- The ports of its pods that a service leads to. -/
def targetPorts (service : Service) : List (Option PortRef) :=
  ((service.spec.bind ServiceSpec.ports).getD []).map ServicePort.targetPort

/-- The selector of a service matches the labels of a pod; one without requirements matches
nothing. -/
def Matches (service : Service) (pod : Pod) : Prop :=
  service.selector ≠ [] ∧
    ∀ required ∈ service.selector, pod.labels.lookup required.1 = some required.2

end Service

/-- A secret holds a text under a key that a pod asks for, where the pod looks for it. -/
structure Secret.Provides (secret : Secret) (pod : Pod) (wanted : String × String)
    (text : String) : Prop where
  ns : secret.metadata.ns = pod.metadata.ns
  name : secret.metadata.name = some wanted.1
  key : (secret.stringData.getD []).lookup wanted.2 = some text

end VolumeMigration
