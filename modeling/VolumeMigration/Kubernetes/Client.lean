import VolumeMigration.Kubernetes.Dialogue
import VolumeMigration.Kubernetes.Observation
import VolumeMigration.Kubernetes.Sent
import VolumeMigration.Kubernetes.Status

/-!
# Calls to a cluster as dialogues

`ClusterClient.call` makes every call to a cluster a dialogue with its API server. A read of an
object that the server reports as missing by its reason is not a failure of the server: a missing
claim is a failure of its own, a missing pod is gone, a missing volume pins nothing. A delete takes
an object for gone by the code of the refusal.
-/

namespace VolumeMigration

open Json (Decoder)

/-- Where a kind of object is kept. -/
inductive Collection where
  | persistentVolumes
  | persistentVolumeClaims (ns : String)
  | pods (ns : String)
  | services (ns : String)
  | secrets (ns : String)
  deriving DecidableEq

namespace Collection

/-- The path of a kind of object in a namespace. -/
def pathIn (ns kind : String) : String :=
  "/api/v1/namespaces/" ++ ns ++ "/" ++ kind

/-- The path of a collection at the server. -/
def path : Collection → String
  | .persistentVolumes => "/api/v1/persistentvolumes"
  | .persistentVolumeClaims ns => pathIn ns "persistentvolumeclaims"
  | .pods ns => pathIn ns "pods"
  | .services ns => pathIn ns "services"
  | .secrets ns => pathIn ns "secrets"

/-- The path of an object in a collection. -/
def objectPath (collection : Collection) (name : String) : String :=
  collection.path ++ "/" ++ name

/-- The collection that keeps the resources of a kind. -/
def ofKind (kind : ResourceKind) (ns : String) : Collection :=
  match kind with
  | .pod => .pods ns
  | .service => .services ns
  | .secret => .secrets ns

end Collection

/-- The target of a request whose options are given in the query: none are. -/
def withQuery (path : String) : String := path ++ "?"

namespace Dialogue

variable {α : Type}

/-- Sends a request to a target, unless that is none, and reads the response. -/
def exchange (decode : Decoder α) (method : HttpMethod) (target : String)
    (body : Option Json) : Dialogue α :=
  match Uri.parse? target with
  | some target =>
      .send { method, target, body } fun response => ofExcept (response.read decode)
  | none => .fail (.api (.malformedRequest .invalidTarget))

/-- The answer to a request for one object. A name has to be there before the server is asked. -/
def fetch (decode : Decoder α) (collection : Collection) (name : String) : Dialogue α :=
  if name = "" then .fail (.api (.malformedRequest .missingName))
  else exchange decode .get (collection.objectPath name) none

/-- Fetches an object that may be missing. -/
def fetch? (decode : Decoder α) (collection : Collection) (name : String) :
    Dialogue (Option α) := do
  match ← (fetch decode collection name).attempt with
  | .ok value => return some value
  | .error (.api (.refused refusal)) =>
      if refusal.isMissing then return none else .fail (.api (.refused refusal))
  | .error failure => .fail failure

end Dialogue

/-- Reads the response to a delete, of which all is taken over: a status, or the deleted object. -/
def decodeDeleted (kind : ResourceKind) : Decoder Unit := fun json =>
  if !json.isWhole Json.depthLimit then none
  else if (json.member? "kind").bind Json.text? = some "Status" then checkStatus json
  else (ObjectMeta.decodeOf kind json).map fun _ => ()

/-- How a resource is to be deleted: a pod at once, since it holds nothing worth saving. -/
def deleteOptions : ResourceKind → Json
  | .pod => .object [("gracePeriodSeconds", .natural 0)]
  | _ => .object []

namespace ClusterClient

/-- The node that the volume of a claim is pinned to. -/
def pinnedNodeOf (spec : ClaimSpec) : Dialogue (Option String) :=
  match spec.volumeName.filter (· != "") with
  | none => return none
  | some volume => do
      let found ← Dialogue.fetch? PersistentVolume.decode .persistentVolumes volume
      return found.bind PersistentVolume.pinnedNode

/-- What is read of a claim, with the node that its volume is bound to. -/
def claim (ns name : String) : Dialogue ClaimInfo := do
  match ← Dialogue.fetch? PersistentVolumeClaim.decode (.persistentVolumeClaims ns) name with
  | none => .fail (.claimNotFound ns name)
  | some found =>
      let spec := found.spec.getD { accessModes := none, volumeName := none }
      let pinnedNode ← pinnedNodeOf spec
      return {
        ns, name, pinnedNode
        accessModes := (spec.accessModes.getD []).filterMap AccessMode.parse? }

/-- The pods of a namespace that mount a claim. -/
def claimUsers (ns claim : String) : Dialogue (List ClaimUser) := do
  let pods ← Dialogue.exchange Pod.decodeList .get (withQuery (Collection.pods ns).path) none
  return Pod.usersOf pods claim

/-- Sends an object to be created in its namespace, under the name that the server gives it. -/
def send (object : SentObject) : Dialogue ResourceRef :=
  match object.ns with
  | none => .fail (.internal "object has no namespace")
  | some ns => do
      let collection := Collection.ofKind object.kind ns
      let created ← Dialogue.exchange (ObjectMeta.decodeOf object.kind) .post
        (withQuery collection.path) (some object.json)
      return { kind := object.kind, ns, name := created.name.getD "" }

/-- The object is sent to its collection and referred to by what the server made of it. -/
def create (object : ClusterObject) : Dialogue ResourceRef :=
  send (.ofObject object)

/-- Deletes a resource that may be gone already. -/
def delete (resource : ResourceRef) : Dialogue Unit :=
  if resource.name = "" then .fail (.api (.malformedRequest .missingName))
  else do
    let collection := Collection.ofKind resource.kind resource.ns
    let answer := Dialogue.exchange (decodeDeleted resource.kind) .delete
      (withQuery (collection.objectPath resource.name)) (some (deleteOptions resource.kind))
    match ← answer.attempt with
    | .ok () => return ()
    | .error (.api (.refused refusal)) =>
        if refusal.code = 404 then return () else .fail (.api (.refused refusal))
    | .error failure => .fail failure

/-- The state of a pod, which is gone if the server does not find it. -/
def podState (ns name : String) : Dialogue PodState := do
  let found ← Dialogue.fetch? Pod.decode (.pods ns) name
  return found.elim .gone Pod.state

/-- Asks for the address of a service. -/
def serviceIngress (ns name : String) : Dialogue (Option String) := do
  match ← Dialogue.fetch? Service.decode (.services ns) name with
  | some service => return service.ingressAddress
  | none =>
      .fail (.provisioning ("service " ++ name) "deleted while waiting for an external address")

/-- A call to a cluster as a dialogue with its API server. -/
def call : (call : Call) → Dialogue call.Answer
  | .claim ns name => claim ns name
  | .claimUsers ns name => claimUsers ns name
  | .create object => create object
  | .delete resource => delete resource
  | .podState ns name => podState ns name
  | .serviceIngress ns name => serviceIngress ns name

/-- The client of a cluster in words. -/
def text (label : String) : String :=
  "KubeCluster \x7b label: " ++ Text.quoted label ++ " \x7d"

end ClusterClient

end VolumeMigration
