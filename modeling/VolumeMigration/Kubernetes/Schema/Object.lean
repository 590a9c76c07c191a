import VolumeMigration.Kubernetes.Schema.Container
import VolumeMigration.Kubernetes.Schema.Volume

/-!
# The shapes of Kubernetes objects

The shapes of pods, services, secrets, claims and persistent volumes. An object is refused when a
field of it has another shape, whether or not anything depends on that field.
-/

namespace VolumeMigration

namespace Schema

open Json (Shape)
open Json.Shape (compound record texts flags counts longs textLists textMaps timestamps)

/-- The shape of an object with metadata and further fields. -/
def objectOf (fields : List (String × Shape)) : Shape :=
  compound ["metadata"] (("metadata", metadata) :: fields)

/-! ## Pods -/

/-- A term that relates a pod to others. -/
def podAffinityTerm : Shape :=
  compound ["topologyKey"] (textLists ["matchLabelKeys", "mismatchLabelKeys", "namespaces"] ++
    texts ["topologyKey"] ++
    Json.Shape.all ["labelSelector", "namespaceSelector"] labelSelector)

/-- The shape of where a pod may run in relation to other pods. -/
def podAffinity : Shape :=
  record
    [("preferredDuringSchedulingIgnoredDuringExecution",
        .list (compound ["podAffinityTerm", "weight"]
          (counts ["weight"] ++ [("podAffinityTerm", podAffinityTerm)]))),
      ("requiredDuringSchedulingIgnoredDuringExecution", .list podAffinityTerm)]

/-- The affinity of a pod, to nodes and to other pods. -/
def affinity : Shape :=
  record (Json.Shape.all ["podAffinity", "podAntiAffinity"] podAffinity ++
    [("nodeAffinity", record
      [("preferredDuringSchedulingIgnoredDuringExecution",
          .list (compound ["preference", "weight"]
            (counts ["weight"] ++ [("preference", nodeSelectorTerm)]))),
        ("requiredDuringSchedulingIgnoredDuringExecution", nodeSelector)])])

/-- The shape of the security context of a pod. -/
def podSecurityContext : Shape :=
  record (securityFields ++ longs ["fsGroup"] ++
    texts ["fsGroupChangePolicy", "seLinuxChangePolicy", "supplementalGroupsPolicy"] ++
    [("supplementalGroups", .list (.integer 64)), ("sysctls", .list namedValue)])

/-- The shape of how the pods of a group are spread. -/
def spreadConstraint : Shape :=
  compound ["maxSkew", "topologyKey", "whenUnsatisfiable"]
    (textLists ["matchLabelKeys"] ++ counts ["maxSkew", "minDomains"] ++
      texts ["nodeAffinityPolicy", "nodeTaintsPolicy", "topologyKey", "whenUnsatisfiable"] ++
      [("labelSelector", labelSelector)])

/-- The shape of what a pod is meant to be. -/
def podSpec : Shape :=
  compound ["containers"] (longs ["activeDeadlineSeconds", "terminationGracePeriodSeconds"] ++
    flags ["automountServiceAccountToken", "enableServiceLinks", "hostIPC", "hostNetwork",
      "hostPID", "hostUsers", "setHostnameAsFQDN", "shareProcessNamespace"] ++
    texts ["dnsPolicy", "hostname", "nodeName", "preemptionPolicy", "priorityClassName",
      "restartPolicy", "runtimeClassName", "schedulerName", "serviceAccount",
      "serviceAccountName", "subdomain"] ++
    counts ["priority"] ++ textMaps ["nodeSelector"] ++ amounts ["overhead"] ++
    Json.Shape.all ["containers", "initContainers"] (.list container) ++
    [("affinity", affinity), ("ephemeralContainers", .list ephemeralContainer),
      ("dnsConfig", record (textLists ["nameservers", "searches"] ++
        [("options", .list (record (texts ["name", "value"])))])),
      ("hostAliases", .list (compound ["ip"] (textLists ["hostnames"] ++ texts ["ip"]))),
      ("imagePullSecrets", .list localReference), ("os", compound ["name"] (texts ["name"])),
      ("readinessGates", .list (compound ["conditionType"] (texts ["conditionType"]))),
      ("resourceClaims", .list (compound ["name"] (texts ["name", "resourceClaimName",
        "resourceClaimTemplateName"]))),
      ("resources", resources),
      ("schedulingGates", .list (compound ["name"] (texts ["name"]))),
      ("securityContext", podSecurityContext),
      ("tolerations", .list (record (texts ["effect", "key", "operator", "value"] ++
        longs ["tolerationSeconds"]))),
      ("topologySpreadConstraints", .list spreadConstraint), ("volumes", .list volume)])

/-- The shape of what is observed of a pod. -/
def podStatus : Shape :=
  record (texts ["hostIP", "message", "nominatedNodeName", "phase", "podIP", "qosClass", "reason",
      "resize"] ++ timestamps ["startTime"] ++
    Json.Shape.all ["containerStatuses", "ephemeralContainerStatuses", "initContainerStatuses"]
      (.list containerStatus) ++
    Json.Shape.all ["hostIPs", "podIPs"] (.list (compound ["ip"] (texts ["ip"]))) ++
    [("conditions", .list condition),
      ("resourceClaimStatuses",
        .list (compound ["name"] (texts ["name", "resourceClaimName"])))])

/-- A pod. -/
def pod : Shape := objectOf [("spec", podSpec), ("status", podStatus)]

/-! ## Services -/

/-- The shape of what a service is meant to be. -/
def serviceSpec : Shape :=
  record (flags ["allocateLoadBalancerNodePorts", "publishNotReadyAddresses"] ++
    texts ["clusterIP", "externalName", "externalTrafficPolicy", "internalTrafficPolicy",
      "ipFamilyPolicy", "loadBalancerClass", "loadBalancerIP", "sessionAffinity",
      "trafficDistribution", "type"] ++
    textLists ["clusterIPs", "externalIPs", "ipFamilies", "loadBalancerSourceRanges"] ++
    counts ["healthCheckNodePort"] ++ textMaps ["selector"] ++
    [("ports", .list (compound ["port"] (texts ["appProtocol", "name", "protocol"] ++
        counts ["nodePort", "port"] ++ [("targetPort", .numberOrName)]))),
      ("sessionAffinityConfig", record [("clientIP", record (counts ["timeoutSeconds"]))])])

/-- The shape of what is observed of a service. -/
def serviceStatus : Shape :=
  record
    [("conditions", .list (compound ["lastTransitionTime", "message", "reason", "status", "type"]
        (texts ["message", "reason", "status", "type"] ++ longs ["observedGeneration"] ++
          timestamps ["lastTransitionTime"]))),
      ("loadBalancer", record [("ingress", .list (record (texts ["hostname", "ip", "ipMode"] ++
        [("ports", .list (compound ["port", "protocol"]
          (texts ["error", "protocol"] ++ counts ["port"])))])))])]

/-- A service. -/
def service : Shape := objectOf [("spec", serviceSpec), ("status", serviceStatus)]

/-! ## Secrets, claims and volumes -/

/-- A secret. -/
def secret : Shape :=
  objectOf (flags ["immutable"] ++ textMaps ["stringData"] ++ texts ["type"] ++
    [("data", .dictionary .bytes)])

/-- A claim. -/
def persistentVolumeClaim : Shape :=
  objectOf [("spec", claimSpec), ("status", claimStatus)]

/-- A volume that claims can be bound to. -/
def persistentVolume : Shape :=
  objectOf [("spec", persistentVolumeSpec), ("status", persistentVolumeStatus)]

end Schema

end VolumeMigration
