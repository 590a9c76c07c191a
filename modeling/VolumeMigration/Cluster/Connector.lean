import VolumeMigration.Cluster.Call
import VolumeMigration.Cluster.ClientFactory
import VolumeMigration.Cluster.Directory
import VolumeMigration.Volume.Locator

/-!
# Connecting to clusters

A connector keeps one client for each resolved access, so that accesses that mean the same context
of the same kubeconfig share it. `Connector.locate` says which volume an access, a namespace and a
name mean: without a namespace it is in the one that the client prefers. `Connector.clusters` gives
every client a handle.
-/

namespace VolumeMigration

/-- The clients made so far. -/
structure Connector (Client : Type) where
  clients : ClusterSet Client

namespace Connector

variable {Document Config Client : Type}

/-- The connector that has made no client. -/
def empty : Connector Client := ⟨.empty⟩

/-- The client for an access, made when it is first asked for, and the connector that keeps it. -/
def connect (factory : ClientFactory Document Config Client) (connector : Connector Client)
    (access : ClusterAccess) : Except Failure (Client × Connector Client) := do
  let resolved ← factory.resolve access
  match connector.clients.get? resolved with
  | some known => return (known, connector)
  | none =>
      let made ← factory.client resolved
      return (made, ⟨connector.clients.insert resolved made⟩)

/-- The volume that an access, a namespace and a name mean, and the connector that keeps its
client. An empty namespace is none. -/
def locate (factory : ClientFactory Document Config Client) (connector : Connector Client)
    (access : ClusterAccess) (ns : Option String) (name : String) :
    Except Failure (VolumeLocator × Connector Client) := do
  let resolved ← factory.resolve access
  let (client, after) ← connector.connect factory resolved
  return ({
    access := resolved
    ns := (ns.filter (· != "")).getD (factory.defaultNs client)
    name }, after)

/-- How many clients have been made. -/
def size (connector : Connector Client) : Nat := connector.clients.size

/-- Whether no client has been made. -/
def isEmpty (connector : Connector Client) : Bool := connector.clients.isEmpty

/-- The connected clusters, each with a handle of its own. -/
def clusters (connector : Connector Client) : ClusterSet ClusterHandle :=
  ⟨connector.clients.entries.zipIdx.map fun entry => (entry.1.1, ⟨entry.2⟩)⟩

end Connector

end VolumeMigration
