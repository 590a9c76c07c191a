import VolumeMigration.Json.Value
import VolumeMigration.Kubernetes.Object

/-!
# Writing Kubernetes objects

Every object is written as JSON with its version and kind. Absent fields are left out.
-/

namespace VolumeMigration

open Json (objectOfPresent)

/-- A list of values of one type. -/
def Json.listOf {α : Type} (encode : α → Json) (values : List α) : Json :=
  .array (values.map encode)

/-- Labels as the members of one object. -/
def Labels.toJson (labels : Labels) : Json :=
  .object (labels.map fun label => (label.1, .string label.2))

/-- The metadata of an object, without what is not set. -/
def ObjectMeta.toJson (metadata : ObjectMeta) : Json :=
  objectOfPresent [("name", metadata.name.map .string), ("namespace", metadata.ns.map .string),
    ("labels", metadata.labels.map Labels.toJson)]

/-- A port by its number or its name. -/
def PortRef.toJson : PortRef → Json
  | .number value => .integer value
  | .name value => .string value

/-- A variable of a container. -/
def EnvVar.toJson (entry : EnvVar) : Json :=
  objectOfPresent [("name", some (.string entry.name)), ("value", entry.value.map .string)]

/-- A port that a container listens on. -/
def ContainerPort.toJson (port : ContainerPort) : Json :=
  objectOfPresent [("name", port.name.map .string),
    ("containerPort", some (.integer port.containerPort))]

/-- A probe that connects to a port. -/
def Probe.toJson (probe : Probe) : Json :=
  objectOfPresent [("tcpSocket", probe.tcpPort.map fun port => .object [("port", port.toJson)]),
    ("periodSeconds", probe.periodSeconds.map .integer)]

/-- A mount, which says that it is read-only only if that was decided. -/
def VolumeMount.toJson (mount : VolumeMount) : Json :=
  objectOfPresent [("name", some (.string mount.name)),
    ("mountPath", some (.string mount.mountPath)), ("readOnly", mount.readOnly.map .bool)]

/-- A container with all that a transfer sets. -/
def Container.toJson (container : Container) : Json :=
  objectOfPresent [("name", some (.string container.name)),
    ("image", container.image.map .string), ("command", container.command.map Json.ofTexts),
    ("env", container.env.map (Json.listOf EnvVar.toJson)),
    ("ports", container.ports.map (Json.listOf ContainerPort.toJson)),
    ("readinessProbe", container.readinessProbe.map Probe.toJson),
    ("volumeMounts", container.volumeMounts.map (Json.listOf VolumeMount.toJson))]

/-- A claim as the source of a volume. -/
def ClaimSource.toJson (source : ClaimSource) : Json :=
  objectOfPresent [("claimName", some (.string source.claimName)),
    ("readOnly", source.readOnly.map .bool)]

/-- A key of a secret as a file. -/
def KeyToPath.toJson (item : KeyToPath) : Json :=
  objectOfPresent [("key", some (.string item.key)), ("path", some (.string item.path)),
    ("mode", item.mode.map .integer)]

/-- A secret as the source of a volume. -/
def SecretSource.toJson (source : SecretSource) : Json :=
  objectOfPresent [("secretName", source.secretName.map .string),
    ("defaultMode", source.defaultMode.map .integer),
    ("items", source.items.map (Json.listOf KeyToPath.toJson))]

/-- A volume of a pod, with its claim or its secret. -/
def Volume.toJson (volume : Volume) : Json :=
  objectOfPresent [("name", some (.string volume.name)),
    ("persistentVolumeClaim", volume.persistentVolumeClaim.map ClaimSource.toJson),
    ("secret", volume.secret.map SecretSource.toJson)]

/-- A requirement on a node. -/
def NodeRequirement.toJson (requirement : NodeRequirement) : Json :=
  objectOfPresent [("key", some (.string requirement.key)),
    ("operator", some (.string requirement.operator)),
    ("values", requirement.values.map Json.ofTexts)]

/-- A term of a selector. -/
def NodeSelectorTerm.toJson (term : NodeSelectorTerm) : Json :=
  objectOfPresent [
    ("matchExpressions", term.matchExpressions.map (Json.listOf NodeRequirement.toJson)),
    ("matchFields", term.matchFields.map (Json.listOf NodeRequirement.toJson))]

/-- A selector, whose terms are written even if there are none. -/
def NodeSelector.toJson (selector : NodeSelector) : Json :=
  .object [("nodeSelectorTerms", Json.listOf NodeSelectorTerm.toJson selector.terms)]

/-- The nodes that a pod requires. -/
def Affinity.toJson (affinity : Affinity) : Json :=
  .object [("nodeAffinity", objectOfPresent [
    ("requiredDuringSchedulingIgnoredDuringExecution",
      affinity.requiredNodes.map NodeSelector.toJson)])]

/-- What a pod is meant to be. -/
def PodSpec.toJson (spec : PodSpec) : Json :=
  objectOfPresent [("containers", some (Json.listOf Container.toJson spec.containers)),
    ("volumes", spec.volumes.map (Json.listOf Volume.toJson)),
    ("restartPolicy", spec.restartPolicy.map .string),
    ("affinity", spec.affinity.map Affinity.toJson), ("nodeName", spec.nodeName.map .string)]

/-- What a container does at the moment. -/
def ContainerState.toJson (state : ContainerState) : Json :=
  objectOfPresent [
    ("waiting", state.waiting.map fun waiting =>
      objectOfPresent [("reason", waiting.reason.map .string)]),
    ("terminated", state.terminated.map fun terminated =>
      objectOfPresent [("exitCode", some (.integer terminated.exitCode)),
        ("reason", terminated.reason.map .string)])]

/-- A container in the status of a pod. -/
def ContainerStatus.toJson (status : ContainerStatus) : Json :=
  objectOfPresent [("ready", some (.bool status.ready)),
    ("state", status.state.map ContainerState.toJson)]

/-- The status of a pod. -/
def PodStatus.toJson (status : PodStatus) : Json :=
  objectOfPresent [("phase", status.phase.map .string), ("reason", status.reason.map .string),
    ("containerStatuses", status.containerStatuses.map (Json.listOf ContainerStatus.toJson))]

/-- A port of a service and the one that it leads to. -/
def ServicePort.toJson (port : ServicePort) : Json :=
  objectOfPresent [("name", port.name.map .string), ("port", some (.integer port.port)),
    ("targetPort", port.targetPort.map PortRef.toJson), ("protocol", port.protocol.map .string)]

/-- What a service is meant to be. -/
def ServiceSpec.toJson (spec : ServiceSpec) : Json :=
  objectOfPresent [("type", spec.serviceType.map .string),
    ("selector", spec.selector.map Labels.toJson),
    ("ports", spec.ports.map (Json.listOf ServicePort.toJson))]

/-- The status of a service, with the ways through its load balancer. -/
def ServiceStatus.toJson (status : ServiceStatus) : Json :=
  objectOfPresent [("loadBalancer", status.loadBalancer.map fun balancer =>
    objectOfPresent [("ingress", balancer.ingress.map (Json.listOf fun point =>
      objectOfPresent [("ip", point.ip.map .string), ("hostname", point.hostname.map .string)]))])]

/-- An object of a kind with its parts. -/
def Json.ofKind (kind : String) (metadata : ObjectMeta) (parts : List (String × Option Json)) :
    Json :=
  objectOfPresent ([("apiVersion", some (.string "v1")), ("kind", some (.string kind)),
    ("metadata", some metadata.toJson)] ++ parts)

/-- A pod as it is sent to the server. -/
def Pod.toJson (pod : Pod) : Json :=
  Json.ofKind "Pod" pod.metadata
    [("spec", pod.spec.map PodSpec.toJson), ("status", pod.status.map PodStatus.toJson)]

/-- A service as it is sent to the server. -/
def Service.toJson (service : Service) : Json :=
  Json.ofKind "Service" service.metadata
    [("spec", service.spec.map ServiceSpec.toJson),
      ("status", service.status.map ServiceStatus.toJson)]

/-- A secret as it is sent to the server, with its texts not encoded. -/
def Secret.toJson (secret : Secret) : Json :=
  Json.ofKind "Secret" secret.metadata [("stringData", secret.stringData.map Labels.toJson)]

/-- An object as it is sent to the server. -/
def ClusterObject.toJson : ClusterObject → Json
  | .pod object => object.toJson
  | .service object => object.toJson
  | .secret object => object.toJson

end VolumeMigration
