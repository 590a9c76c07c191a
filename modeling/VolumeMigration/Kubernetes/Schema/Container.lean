import VolumeMigration.Kubernetes.Schema.Basic

/-!
# The shape of containers

What a container is meant to be, and what is observed of one.
-/

namespace VolumeMigration

namespace Schema

open Json (Shape)
open Json.Shape (compound record texts flags counts longs textLists timestamps)

/-- A command that is run in a container. -/
def command : Shape := record (textLists ["command"])

/-- The shape of a request that a node sends. -/
def httpAction : Shape :=
  compound ["port"] (texts ["host", "path", "scheme"] ++
    [("httpHeaders", .list namedValue), ("port", .numberOrName)])

/-- The shape of a connection that a node opens. -/
def socketAction : Shape := compound ["port"] (texts ["host"] ++ [("port", .numberOrName)])

/-- A probe by a command, a call or a connection. -/
def probe : Shape :=
  record (counts ["failureThreshold", "initialDelaySeconds", "periodSeconds", "successThreshold",
      "timeoutSeconds"] ++ longs ["terminationGracePeriodSeconds"] ++
    [("exec", command), ("grpc", compound ["port"] (counts ["port"] ++ texts ["service"])),
      ("httpGet", httpAction), ("tcpSocket", socketAction)])

/-- The shape of what is done at the start or the end of a container. -/
def handler : Shape :=
  record [("exec", command), ("httpGet", httpAction),
    ("sleep", compound ["seconds"] (longs ["seconds"])), ("tcpSocket", socketAction)]

/-- A variable with its value or the place that it comes from. -/
def envVariable : Shape :=
  compound ["name"] (texts ["name", "value"] ++
    [("valueFrom", record [("configMapKeyRef", keySelector), ("fieldRef", fieldSelector),
      ("resourceFieldRef", resourceSelector), ("secretKeyRef", keySelector)])])

/-- An object whose entries all become variables. -/
def variableSource : Shape :=
  let source : Shape := compound ["name"] (texts ["name"] ++ flags ["optional"])
  record (texts ["prefix"] ++ Json.Shape.all ["configMapRef", "secretRef"] source)

/-- A port of a container. -/
def containerPort : Shape :=
  compound ["containerPort"]
    (counts ["containerPort", "hostPort"] ++ texts ["hostIP", "name", "protocol"])

/-- A volume at a directory of a container. -/
def mount : Shape :=
  compound ["mountPath", "name"]
    (texts ["mountPath", "mountPropagation", "name", "recursiveReadOnly", "subPath",
      "subPathExpr"] ++ flags ["readOnly"])

/-- A profile that restricts a container. -/
def profile : Shape := compound ["type"] (texts ["localhostProfile", "type"])

/-- The fields of a security context that pods and containers share. -/
def securityFields : List (String × Shape) :=
  longs ["runAsGroup", "runAsUser"] ++ flags ["runAsNonRoot"] ++
    Json.Shape.all ["appArmorProfile", "seccompProfile"] profile ++
    [("seLinuxOptions", record (texts ["level", "role", "type", "user"])),
      ("windowsOptions", record (texts ["gmsaCredentialSpec", "gmsaCredentialSpecName",
        "runAsUserName"] ++ flags ["hostProcess"]))]

/-- The shape of the security context of a container. -/
def securityContext : Shape :=
  record (securityFields ++
    flags ["allowPrivilegeEscalation", "privileged", "readOnlyRootFilesystem"] ++
    texts ["procMount"] ++ [("capabilities", record (textLists ["add", "drop"]))])

/-- The fields that all kinds of containers have. -/
def containerFields : List (String × Shape) :=
  texts ["image", "imagePullPolicy", "name", "restartPolicy", "terminationMessagePath",
      "terminationMessagePolicy", "workingDir"] ++
    textLists ["args", "command"] ++ flags ["stdin", "stdinOnce", "tty"] ++
    Json.Shape.all ["livenessProbe", "readinessProbe", "startupProbe"] probe ++
    [("env", .list envVariable), ("envFrom", .list variableSource),
      ("lifecycle", record (Json.Shape.all ["postStart", "preStop"] handler)),
      ("ports", .list containerPort),
      ("resizePolicy", .list (compound ["resourceName", "restartPolicy"]
        (texts ["resourceName", "restartPolicy"]))),
      ("resources", resources), ("securityContext", securityContext),
      ("volumeDevices",
        .list (compound ["devicePath", "name"] (texts ["devicePath", "name"]))),
      ("volumeMounts", .list mount)]

/-- A container of a pod. -/
def container : Shape := compound ["name"] containerFields

/-- The shape of a container that is added to a running pod. -/
def ephemeralContainer : Shape :=
  compound ["name"] (containerFields ++ texts ["targetContainerName"])

/-- The state of a container. -/
def containerState : Shape :=
  record [("running", record (timestamps ["startedAt"])),
    ("terminated", compound ["exitCode"] (texts ["containerID", "message", "reason"] ++
      counts ["exitCode", "signal"] ++ timestamps ["finishedAt", "startedAt"])),
    ("waiting", record (texts ["message", "reason"]))]

/-- The shape of the user that a container runs as. -/
def containerUser : Shape :=
  record [("linux", compound ["gid", "uid"] (longs ["gid", "uid"] ++
    [("supplementalGroups", .list (.integer 64))]))]

/-- The shape of what is observed of a container. -/
def containerStatus : Shape :=
  let health : Shape := compound ["resourceID"] (texts ["health", "resourceID"])
  compound ["image", "imageID", "name", "ready", "restartCount"]
    (texts ["containerID", "image", "imageID", "name"] ++ flags ["ready", "started"] ++
      counts ["restartCount"] ++ amounts ["allocatedResources"] ++
      Json.Shape.all ["lastState", "state"] containerState ++
      [("allocatedResourcesStatus",
          .list (compound ["name"] (texts ["name"] ++ [("resources", .list health)]))),
        ("resources", resources), ("user", containerUser),
        ("volumeMounts", .list (compound ["mountPath", "name"]
          (texts ["mountPath", "name", "recursiveReadOnly"] ++ flags ["readOnly"])))])

end Schema

end VolumeMigration
