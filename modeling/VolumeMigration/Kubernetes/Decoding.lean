import VolumeMigration.Json.Decoder
import VolumeMigration.Kubernetes.Object
import VolumeMigration.Kubernetes.Schema.Object

/-!
# Reading Kubernetes objects

An object is refused when its version or kind is given and not the expected one, or when a field
that objects of its kind have is of the wrong shape, even if nothing depends on that field. Other
fields are ignored. A missing field that must have a value is empty, zero or false.
-/

namespace VolumeMigration

open Json (Decoder Shape)
open Json.Decoder (text flag int32 list dictionary optional withDefault object)

/-- The name, the namespace and the labels of an object, none of which has to be there. -/
def ObjectMeta.decode : Decoder ObjectMeta := object fun json => do
  return {
    name := ← optional "name" text json
    ns := ← optional "namespace" text json
    labels := ← optional "labels" (dictionary text) json }

/-- Reads a port given by its number or its name. -/
def PortRef.decode : Decoder PortRef := fun json =>
  match json with
  | .string value => some (.name value)
  | json => (int32 json).map .number

/-- A variable of a container, with an empty name if there is none. -/
def EnvVar.decode : Decoder EnvVar := object fun json => do
  return {
    name := ← withDefault "name" "" text json
    value := ← optional "value" text json }

/-- A port of a container, with the number 0 if there is none. -/
def ContainerPort.decode : Decoder ContainerPort := object fun json => do
  return {
    name := ← optional "name" text json
    containerPort := ← withDefault "containerPort" 0 int32 json }

/-- A probe, of which only the port that it connects to is read. -/
def Probe.decode : Decoder Probe := object fun json => do
  return {
    tcpPort := ← optional "tcpSocket"
      (object fun socket => withDefault "port" (.number 0) PortRef.decode socket) json
    periodSeconds := ← optional "periodSeconds" int32 json }

/-- A mount, which names its volume and its directory by empty texts if they are missing. -/
def VolumeMount.decode : Decoder VolumeMount := object fun json => do
  return {
    name := ← withDefault "name" "" text json
    mountPath := ← withDefault "mountPath" "" text json
    readOnly := ← optional "readOnly" flag json }

/-- A container, with whatever of it a transfer sets. -/
def Container.decode : Decoder Container := object fun json => do
  return {
    name := ← withDefault "name" "" text json
    image := ← optional "image" text json
    command := ← optional "command" (list text) json
    env := ← optional "env" (list EnvVar.decode) json
    ports := ← optional "ports" (list ContainerPort.decode) json
    readinessProbe := ← optional "readinessProbe" Probe.decode json
    volumeMounts := ← optional "volumeMounts" (list VolumeMount.decode) json }

/-- Reads a claim as the source of a volume. -/
def ClaimSource.decode : Decoder ClaimSource := object fun json => do
  return {
    claimName := ← withDefault "claimName" "" text json
    readOnly := ← optional "readOnly" flag json }

/-- Reads a key of a secret as a file. -/
def KeyToPath.decode : Decoder KeyToPath := object fun json => do
  return {
    key := ← withDefault "key" "" text json
    path := ← withDefault "path" "" text json
    mode := ← optional "mode" int32 json }

/-- Reads a secret as the source of a volume. -/
def SecretSource.decode : Decoder SecretSource := object fun json => do
  return {
    secretName := ← optional "secretName" text json
    defaultMode := ← optional "defaultMode" int32 json
    items := ← optional "items" (list KeyToPath.decode) json }

/-- A volume of a pod, with its claim or its secret. -/
def Volume.decode : Decoder Volume := object fun json => do
  return {
    name := ← withDefault "name" "" text json
    persistentVolumeClaim := ← optional "persistentVolumeClaim" ClaimSource.decode json
    secret := ← optional "secret" SecretSource.decode json }

/-- A requirement on a node, by a label or a field. -/
def NodeRequirement.decode : Decoder NodeRequirement := object fun json => do
  return {
    key := ← withDefault "key" "" text json
    operator := ← withDefault "operator" "" text json
    values := ← optional "values" (list text) json }

/-- A term of a selector, whose requirements have to hold together. -/
def NodeSelectorTerm.decode : Decoder NodeSelectorTerm := object fun json => do
  return {
    matchExpressions := ← optional "matchExpressions" (list NodeRequirement.decode) json
    matchFields := ← optional "matchFields" (list NodeRequirement.decode) json }

/-- A selector of nodes. Without terms it selects none. -/
def NodeSelector.decode : Decoder NodeSelector := object fun json => do
  return { terms := ← withDefault "nodeSelectorTerms" [] (list NodeSelectorTerm.decode) json }

/-- The affinity of a pod, of which only the nodes that it requires are read. -/
def Affinity.decode : Decoder Affinity := object fun json => do
  let nodes ← optional "nodeAffinity"
    (object (optional "requiredDuringSchedulingIgnoredDuringExecution" NodeSelector.decode)) json
  return { requiredNodes := nodes.join }

/-- What a pod is to run, and where. -/
def PodSpec.decode : Decoder PodSpec := object fun json => do
  return {
    containers := ← withDefault "containers" [] (list Container.decode) json
    volumes := ← optional "volumes" (list Volume.decode) json
    restartPolicy := ← optional "restartPolicy" text json
    affinity := ← optional "affinity" Affinity.decode json
    nodeName := ← optional "nodeName" text json }

/-- A container that waits, with its reason. -/
def WaitingState.decode : Decoder WaitingState := object fun json => do
  return { reason := ← optional "reason" text json }

/-- A container that has ended, with the status 0 if none is told. -/
def TerminatedState.decode : Decoder TerminatedState := object fun json => do
  return {
    exitCode := ← withDefault "exitCode" 0 int32 json
    reason := ← optional "reason" text json }

/-- The state of a container, as far as it waits or has ended. -/
def ContainerState.decode : Decoder ContainerState := object fun json => do
  return {
    waiting := ← optional "waiting" WaitingState.decode json
    terminated := ← optional "terminated" TerminatedState.decode json }

/-- A container in the status of a pod, not ready unless it says so. -/
def ContainerStatus.decode : Decoder ContainerStatus := object fun json => do
  return {
    ready := ← withDefault "ready" false flag json
    state := ← optional "state" ContainerState.decode json }

/-- The status of a pod. -/
def PodStatus.decode : Decoder PodStatus := object fun json => do
  return {
    phase := ← optional "phase" text json
    reason := ← optional "reason" text json
    containerStatuses := ← optional "containerStatuses" (list ContainerStatus.decode) json }

/-- A port of a service and the one that it leads to. -/
def ServicePort.decode : Decoder ServicePort := object fun json => do
  return {
    name := ← optional "name" text json
    port := ← withDefault "port" 0 int32 json
    targetPort := ← optional "targetPort" PortRef.decode json
    protocol := ← optional "protocol" text json }

/-- The pods that a service leads to, and its ports. -/
def ServiceSpec.decode : Decoder ServiceSpec := object fun json => do
  return {
    serviceType := ← optional "type" text json
    selector := ← optional "selector" (dictionary text) json
    ports := ← optional "ports" (list ServicePort.decode) json }

/-- A way into a service, by its address or its name. -/
def IngressPoint.decode : Decoder IngressPoint := object fun json => do
  return {
    ip := ← optional "ip" text json
    hostname := ← optional "hostname" text json }

/-- The ways into a service through a load balancer. -/
def LoadBalancerStatus.decode : Decoder LoadBalancerStatus := object fun json => do
  return { ingress := ← optional "ingress" (list IngressPoint.decode) json }

/-- The status of a service, of which only the load balancer is read. -/
def ServiceStatus.decode : Decoder ServiceStatus := object fun json => do
  return { loadBalancer := ← optional "loadBalancer" LoadBalancerStatus.decode json }

/-- What a claim asks for, and the volume that it is bound to. -/
def ClaimSpec.decode : Decoder ClaimSpec := object fun json => do
  return {
    accessModes := ← optional "accessModes" (list text) json
    volumeName := ← optional "volumeName" text json }

/-- Reads the nodes from which a volume can be reached. -/
def VolumeNodeAffinity.decode : Decoder VolumeNodeAffinity := object fun json => do
  return { required := ← optional "required" NodeSelector.decode json }

/-- A volume, of which only the nodes that it can be attached to are read. -/
def PersistentVolumeSpec.decode : Decoder PersistentVolumeSpec := object fun json => do
  return { nodeAffinity := ← optional "nodeAffinity" VolumeNodeAffinity.decode json }

/-- Reads an object of a kind and a shape: version and kind must be the expected ones wherever they
are given. What is taken over may be nested to a depth. -/
def Json.Decoder.ofKind {α : Type} (depth : Nat) (kind : String) (shape : Shape)
    (value : Decoder α) : Decoder α := object fun json =>
  if (json.values "apiVersion").all (fun found => found.text? = some "v1") &&
      (json.values "kind").all (fun found => found.text? = some kind) &&
      shape.admits depth json then
    value json
  else none

/-- Reads metadata, or takes it as empty where it is absent. -/
def ObjectMeta.decodeIn : Decoder ObjectMeta :=
  withDefault "metadata" ObjectMeta.none ObjectMeta.decode

/-- Reads a pod whose parts may be nested to a depth. -/
def Pod.decodeAt (depth : Nat) : Decoder Pod :=
  Json.Decoder.ofKind depth "Pod" Schema.pod fun json => do
    return {
      metadata := ← ObjectMeta.decodeIn json
      spec := ← optional "spec" PodSpec.decode json
      status := ← optional "status" PodStatus.decode json }

/-- A pod, in an answer that is not nested deeper than allowed. -/
def Pod.decode : Decoder Pod := Pod.decodeAt Json.depthLimit

/-- A service that is well-formed in all of its known fields. -/
def Service.decode : Decoder Service :=
  Json.Decoder.ofKind Json.depthLimit "Service" Schema.service fun json => do
    return {
      metadata := ← ObjectMeta.decodeIn json
      spec := ← optional "spec" ServiceSpec.decode json
      status := ← optional "status" ServiceStatus.decode json }

/-- A secret that is well-formed in all of its known fields. -/
def Secret.decode : Decoder Secret :=
  Json.Decoder.ofKind Json.depthLimit "Secret" Schema.secret fun json => do
    return {
      metadata := ← ObjectMeta.decodeIn json
      stringData := ← optional "stringData" (dictionary text) json }

/-- A claim that is well-formed in all of its known fields. -/
def PersistentVolumeClaim.decode : Decoder PersistentVolumeClaim :=
  Json.Decoder.ofKind Json.depthLimit "PersistentVolumeClaim" Schema.persistentVolumeClaim
    fun json => do
      return {
        metadata := ← ObjectMeta.decodeIn json
        spec := ← optional "spec" ClaimSpec.decode json }

/-- A volume that is well-formed in all of its known fields. -/
def PersistentVolume.decode : Decoder PersistentVolume :=
  Json.Decoder.ofKind Json.depthLimit "PersistentVolume" Schema.persistentVolume fun json => do
    return {
      metadata := ← ObjectMeta.decodeIn json
      spec := ← optional "spec" PersistentVolumeSpec.decode json }

/-- The parts of a list that are looked at. -/
def listFields : List String := ["metadata", "items"]

/-- Reads the items of a list of pods. A list must have items, though they may be null, and what it
says about itself is an object; neither may occur twice. All else in it, of which nothing is used,
is taken over. -/
def Pod.decodeList : Decoder (List Pod) := object fun json =>
  let others := json.members.filter fun member => !listFields.contains member.1
  if Json.Decoder.namesOnce listFields json &&
      others.all (fun member => member.2.isWhole (Json.depthLimit - 1)) &&
      (json.values "metadata").all (Schema.listMetadata.admits (Json.depthLimit - 1)) then
    Json.Decoder.required "items"
      (fun items =>
        if items.isNull then some []
        else list (Pod.decodeAt (Json.depthLimit - 2)) items)
      json
  else none

end VolumeMigration
