import VolumeMigration.Kubernetes.Observation
import VolumeMigration.Transfer.Script

/-!
# The objects of a transfer

The pods, services and secrets that an attempt creates. All carry labels that name the manager, the
attempt and the part that the object plays, so that mount inspection can leave them out and an
operator can find what was left over. A pod may be kept to one node by its name.
-/

namespace VolumeMigration

/-- The label that names the attempt of an object. -/
def instanceLabel : String := "app.kubernetes.io/instance"

/-- The label that names the part of an object in its attempt. -/
def componentLabel : String := "app.kubernetes.io/component"

/-- The part that an object plays in an attempt. -/
inductive Component where
  | mountBoth
  | sshd
  | rsync
  deriving DecidableEq

/-- The name of a part, as labels and names of objects write it. -/
def Component.name : Component → String
  | .mountBoth => "mount-both"
  | .sshd => "sshd"
  | .rsync => "rsync"

/-- How a service can be reached. -/
inductive Exposure where
  /-- From inside the cluster. -/
  | clusterIp
  /-- From outside, through a load balancer. -/
  | loadBalancer
  deriving DecidableEq

/-- The type of a service that is exposed in a way. -/
def Exposure.serviceType : Exposure → String
  | .clusterIp => "ClusterIP"
  | .loadBalancer => "LoadBalancer"

namespace Manifest

/-- The labels of an object with a part named in words. -/
def labelsFor (attemptId component : String) : Labels :=
  [(componentLabel, component), (instanceLabel, attemptId), (managedByLabel, managerName)]

/-- The labels of an object that plays a part in an attempt. -/
def labels (attemptId : String) (component : Component) : Labels :=
  labelsFor attemptId component.name

/-- The metadata of an object that plays a part in an attempt. -/
def metadata (name ns attemptId : String) (component : Component) : ObjectMeta :=
  { name := some name, ns := some ns, labels := some (labels attemptId component) }

/-- A volume of a pod that is a claim. -/
def claimVolume (name claim : String) (readOnly : Bool) : Volume :=
  { name
    persistentVolumeClaim := some { claimName := claim, readOnly := some readOnly }
    secret := none }

/-- A volume that is one key of a secret, as a file of the same name. -/
def secretVolume (name secret key : String) (mode : Int) : Volume :=
  { name
    persistentVolumeClaim := none
    secret := some {
      secretName := some secret
      defaultMode := some mode
      items := some [{ key, path := key, mode := some mode }] } }

/-- A volume at a directory of a container. -/
def mount (volume path : String) (readOnly : Bool) : VolumeMount :=
  { name := volume, mountPath := path, readOnly := some readOnly }

/-- The requirement to run on one node. -/
def pinnedTo (node : String) : Affinity :=
  { requiredNodes := some {
      terms := [{
        matchExpressions := none
        matchFields := some [
          { key := "metadata.name", operator := "In", values := some [node] }] }] } }

/-- A pod that runs one container to its end. -/
def singlePod (metadata : ObjectMeta) (container : Container) (volumes : List Volume)
    (node : Option String) : Pod :=
  { metadata
    spec := some {
      containers := [container]
      volumes := some volumes
      restartPolicy := some "Never"
      affinity := node.map pinnedTo
      nodeName := none }
    status := none }

/-- The container that runs a script with a shell. -/
def scriptContainer (image script : String) (mounts : List VolumeMount) : Container :=
  { name := "rsync"
    image := some image
    command := some ["sh", "-c", script]
    env := none
    ports := none
    readinessProbe := none
    volumeMounts := some mounts }

/-- The container of the relay: root may log in, and it is ready once its port accepts
connections. -/
def sshdContainer (image : String) : Container :=
  { name := "sshd"
    image := some image
    command := none
    env := some [{ name := "SSH_ENABLE_ROOT", value := some "true" }]
    ports := some [{ name := some "ssh", containerPort := Layout.sshPort }]
    readinessProbe := some { tcpPort := some (.number Layout.sshPort), periodSeconds := some 2 }
    volumeMounts := some [mount "dest" Layout.destinationPath false,
      mount "keys" Layout.sshDirectory true] }

end Manifest

open Manifest

/-- The pod that mounts both claims and copies between them. -/
structure MountBothPod where
  name : String
  ns : String
  attemptId : String
  image : String
  sourceClaim : String
  destinationClaim : String
  node : Option String
  script : String

/-- The pod that mounts both claims, of which only the destination is writable. -/
def MountBothPod.toPod (pod : MountBothPod) : Pod :=
  singlePod (metadata pod.name pod.ns pod.attemptId .mountBoth)
    (scriptContainer pod.image pod.script
      [mount "source" Layout.sourcePath true, mount "dest" Layout.destinationPath false])
    [claimVolume "source" pod.sourceClaim true, claimVolume "dest" pod.destinationClaim false]
    pod.node

/-- The pod of the relay, which mounts the destination claim. -/
structure SshdPod where
  name : String
  ns : String
  attemptId : String
  image : String
  destinationClaim : String
  keysSecret : String
  node : Option String

/-- The pod that serves the destination to whoever has the accepted key. -/
def SshdPod.toPod (pod : SshdPod) : Pod :=
  singlePod (metadata pod.name pod.ns pod.attemptId .sshd) (sshdContainer pod.image)
    [claimVolume "dest" pod.destinationClaim false,
      secretVolume "keys" pod.keysSecret Layout.authorizedKeysFile 0o600]
    pod.node

/-- The pod that copies the source claim to a relay. -/
structure RsyncPod where
  name : String
  ns : String
  attemptId : String
  image : String
  sourceClaim : String
  keySecret : String
  node : Option String
  script : String

/-- The pod that copies from the source, which it only reads, to a host. -/
def RsyncPod.toPod (pod : RsyncPod) : Pod :=
  singlePod (metadata pod.name pod.ns pod.attemptId .rsync)
    (scriptContainer pod.image pod.script
      [mount "source" Layout.sourcePath true, mount "key" Layout.keyDirectory true])
    [claimVolume "source" pod.sourceClaim true,
      secretVolume "key" pod.keySecret Layout.privateKeyFile 0o400]
    pod.node

/-- The secret with the key that the relay accepts. -/
def authorizedKeysSecret (name ns attemptId authorizedKey : String) : Secret :=
  { metadata := metadata name ns attemptId .sshd
    stringData := some [(Layout.authorizedKeysFile, authorizedKey ++ "\n")] }

/-- The secret with the private key of the transfer pod. -/
def privateKeySecret (name ns attemptId privateKey : String) : Secret :=
  { metadata := metadata name ns attemptId .rsync
    stringData := some [(Layout.privateKeyFile, privateKey)] }

/-- The service in front of the relay. -/
def relayService (name ns attemptId : String) (exposure : Exposure) : Service :=
  { metadata := metadata name ns attemptId .sshd
    spec := some {
      serviceType := some exposure.serviceType
      selector := some (labels attemptId .sshd)
      ports := some [{
        name := some "ssh"
        port := Layout.sshPort
        targetPort := some (.number Layout.sshPort)
        protocol := some "TCP" }] }
    status := none }

end VolumeMigration
