import VolumeMigration.Failure
import VolumeMigration.Kubernetes.Object
import VolumeMigration.Resource
import VolumeMigration.Volume.Claim

/-!
# Calls to a cluster

Everything that a migration asks of a cluster. `Call.Answer` is the type of a successful answer; a
failing call answers a `Failure` instead and changes nothing.
-/

namespace VolumeMigration

/-- A connected cluster. -/
structure ClusterHandle where
  index : Nat
  deriving DecidableEq

/-- The kind of an object to create. -/
def ClusterObject.kind : ClusterObject → ResourceKind
  | .pod _ => .pod
  | .service _ => .service
  | .secret _ => .secret

/-- A call to a cluster. -/
inductive Call where
  /-- Fetch a claim; a missing claim is a failure. -/
  | claim (ns name : String)
  /-- List the pods whose volumes refer to a claim. -/
  | claimUsers (ns claim : String)
  /-- Create an object. -/
  | create (object : ClusterObject)
  /-- Delete an object; one that is already gone is no failure. -/
  | delete (resource : ResourceRef)
  /-- Observe a pod. -/
  | podState (ns name : String)
  /-- Ask for the external address of a service, which may not be assigned yet. -/
  | serviceIngress (ns name : String)
  deriving DecidableEq

namespace Call

/-- What a call answers when it succeeds. -/
def Answer : Call → Type
  | .claim _ _ => ClaimInfo
  | .claimUsers _ _ => List ClaimUser
  | .create _ => ResourceRef
  | .delete _ => Unit
  | .podState _ _ => PodState
  | .serviceIngress _ _ => Option String

instance : (call : Call) → DecidableEq call.Answer
  | .claim _ _ => inferInstanceAs (DecidableEq ClaimInfo)
  | .claimUsers _ _ => inferInstanceAs (DecidableEq (List ClaimUser))
  | .create _ => inferInstanceAs (DecidableEq ResourceRef)
  | .delete _ => inferInstanceAs (DecidableEq Unit)
  | .podState _ _ => inferInstanceAs (DecidableEq PodState)
  | .serviceIngress _ _ => inferInstanceAs (DecidableEq (Option String))

/-- The name of a call, by which scripted answers select it. -/
def name : Call → String
  | .claim _ _ => "claim"
  | .claimUsers _ _ => "claim_users"
  | .create object => "create_" ++ object.kind.name
  | .delete resource => "delete_" ++ resource.kind.name
  | .podState _ _ => "pod_state"
  | .serviceIngress _ _ => "service_ingress"

/-- The namespace of the object that a call is about. -/
def objectNs : Call → String
  | .claim ns _ => ns
  | .claimUsers ns _ => ns
  | .create object => object.metadata.ns.getD ""
  | .delete resource => resource.ns
  | .podState ns _ => ns
  | .serviceIngress ns _ => ns

/-- The name of the object that a call is about. -/
def objectName : Call → String
  | .claim _ name => name
  | .claimUsers _ name => name
  | .create object => object.metadata.name.getD ""
  | .delete resource => resource.name
  | .podState _ name => name
  | .serviceIngress _ name => name

/-- A call in words: its name and its object. -/
def text (call : Call) : String :=
  call.name ++ " " ++ call.objectNs ++ "/" ++ call.objectName

end Call

end VolumeMigration
