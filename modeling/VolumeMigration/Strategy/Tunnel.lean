import VolumeMigration.Provisioning
import VolumeMigration.Strategy.Probing
import VolumeMigration.Transfer.Manifest
import VolumeMigration.Wait

/-!
# Copying through a relay

A relay pod mounts the destination and accepts connections with a key made for this attempt; a
second pod mounts the source and copies to it. The relay is reached through a service, from inside
its cluster or through a load balancer. First come the accepted key, the relay and its service, and
only when the relay is ready the private key and the copying pod. Each pod is kept to the node
where its volume is in use.
-/

namespace VolumeMigration

namespace Tunnel

/-- The name of the strategy that copies through a relay inside its cluster. -/
def inClusterName : String := "rsync-in-cluster"

/-- The name of the strategy that copies through a load balancer. -/
def crossClusterName : String := "rsync-cross-cluster"

/-- The nodes that the volumes of a request are in use on, found by probing again. -/
def probeNodes (context : AttemptContext) : Plan (Option String × Option String) := do
  match ← checkedProbe context with
  | .error reason => Plan.fail (.provisioning "relay" reason)
  | .ok volumes => return (volumes.source.mount.node, volumes.destination.mount.node)

/-- The secret with the key that the relay accepts. -/
def keysSecret (context : AttemptContext) : Secret :=
  authorizedKeysSecret (context.resourceName "sshd-keys") context.request.destination.ns
    context.attemptId context.draw.keyPair.authorizedKey

/-- The relay. -/
def relayPod (context : AttemptContext) (node : Option String) : SshdPod :=
  { name := context.resourceName "sshd"
    ns := context.request.destination.ns
    attemptId := context.attemptId
    image := context.request.sshdImage
    destinationClaim := context.request.destination.name
    keysSecret := context.resourceName "sshd-keys"
    node }

/-- The service in front of the relay. -/
def service (context : AttemptContext) (exposure : Exposure) : Service :=
  relayService (context.resourceName "sshd") context.request.destination.ns context.attemptId
    exposure

/-- The secret with the private key. -/
def keySecret (context : AttemptContext) : Secret :=
  privateKeySecret (context.resourceName "rsync-key") context.request.source.ns
    context.attemptId context.draw.keyPair.privateKey

/-- The pod that copies to the relay on a host. -/
def copyPod (context : AttemptContext) (node : Option String) (host : String) : RsyncPod :=
  { name := context.resourceName "rsync"
    ns := context.request.source.ns
    attemptId := context.attemptId
    image := context.request.rsyncImage
    sourceClaim := context.request.source.name
    keySecret := context.resourceName "rsync-key"
    node
    script := (transferScript context.request.options context.pacing (.remote host)).text }

/-- The host on which the relay can be reached. -/
def relayHost (context : AttemptContext) (cluster : ClusterHandle) (created : ResourceRef) :
    Exposure → Plan String
  | .clusterIp => return context.resourceName "sshd" ++ "." ++ context.request.destination.ns
  | .loadBalancer => waitServiceIngress context.pacing cluster created

/-- Creates the relay with its key and its service, and waits until it can be reached. -/
def openRelay (context : AttemptContext) (exposure : Exposure) (cluster : ClusterHandle)
    (node : Option String) : Provisioning String := do
  let _ ← .create cluster (.secret (keysSecret context))
  let relay ← .create cluster (.pod (relayPod context node).toPod)
  let created ← .create cluster (.service (service context exposure))
  .lift (waitPodReady context.pacing cluster relay)
  .lift (relayHost context cluster created exposure)

/-- Creates the copying pod with its key, and waits until it has copied. -/
def copyTo (context : AttemptContext) (cluster : ClusterHandle) (node : Option String)
    (host : String) : Provisioning Unit := do
  let _ ← .create cluster (.secret (keySecret context))
  let created ← .create cluster (.pod (copyPod context node host).toPod)
  .lift (waitPodCompleted context.pacing cluster created)

/-- Copies through a relay that is exposed in a way. -/
def transfer (exposure : Exposure) (context : AttemptContext) : Provisioning Unit := do
  let sourceCluster ← .ofExcept context.sourceCluster
  let destinationCluster ← .ofExcept context.destinationCluster
  let (sourceNode, destinationNode) ← .lift (probeNodes context)
  let host ← openRelay context exposure destinationCluster destinationNode
  copyTo context sourceCluster sourceNode host

end Tunnel

/-- The strategy that copies through a relay inside one cluster. -/
def rsyncInCluster : Strategy :=
  { name := Tunnel.inClusterName
    applicable := fun context =>
      if context.request.source.SameCluster context.request.destination then
        applicableIfFree context
      else return .notApplicable "source and destination are in different clusters"
    execute := fun context => withResources (Tunnel.transfer .clusterIp context) }

/-- The strategy that copies through a relay behind a load balancer. -/
def rsyncCrossCluster : Strategy :=
  { name := Tunnel.crossClusterName
    applicable := applicableIfFree
    execute := fun context => withResources (Tunnel.transfer .loadBalancer context) }

end VolumeMigration
