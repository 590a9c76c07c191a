import VolumeMigration.Json.Shape

/-!
# Shapes that Kubernetes objects share

The shapes of metadata, references, selectors and amounts.
-/

namespace VolumeMigration

namespace Schema

open Json (Shape)
open Json.Shape (compound record texts flags counts longs textLists textMaps timestamps)

/-- The shape of an amount, which is written as a text. -/
def quantity : Shape := .text

/-- Fields that hold quantities by their names. -/
def amounts (names : List String) : List (String × Shape) :=
  Json.Shape.all names (.dictionary quantity)

/-- The shape of a reference from an object to its owner. -/
def ownerReference : Shape :=
  compound ["apiVersion", "kind", "name", "uid"] (texts ["apiVersion", "kind", "name", "uid"] ++
    flags ["blockOwnerDeletion", "controller"])

/-- The shape of what is known of a manager of fields. -/
def managedFields : Shape :=
  record (texts ["apiVersion", "fieldsType", "manager", "operation", "subresource"] ++
    timestamps ["time"] ++ [("fieldsV1", .anything)])

/-- The metadata of any object. -/
def metadata : Shape :=
  record (texts ["generateName", "name", "namespace", "resourceVersion", "selfLink", "uid"] ++
    textMaps ["annotations", "labels"] ++ textLists ["finalizers"] ++
    timestamps ["creationTimestamp", "deletionTimestamp"] ++
    longs ["deletionGracePeriodSeconds", "generation"] ++
    [("managedFields", .list managedFields), ("ownerReferences", .list ownerReference)])

/-- The shape of what a list says about itself. -/
def listMetadata : Shape :=
  record (texts ["continue", "resourceVersion", "selfLink"] ++ longs ["remainingItemCount"])

/-- A requirement by a key and some values. -/
def requirement : Shape :=
  compound ["key", "operator"] (texts ["key", "operator"] ++ textLists ["values"])

/-- A selector by labels. -/
def labelSelector : Shape :=
  record (textMaps ["matchLabels"] ++ [("matchExpressions", .list requirement)])

/-- The shape of a term of a node selector. -/
def nodeSelectorTerm : Shape :=
  record (Json.Shape.all ["matchExpressions", "matchFields"] (.list requirement))

/-- A selector of nodes, which has to list its terms. -/
def nodeSelector : Shape :=
  compound ["nodeSelectorTerms"] [("nodeSelectorTerms", .list nodeSelectorTerm)]

/-- The shape of a reference to an object of the same namespace. -/
def localReference : Shape := compound ["name"] (texts ["name"])

/-- The shape of a reference to a secret of any namespace. -/
def secretReference : Shape := record (texts ["name", "namespace"])

/-- A reference to an object of any kind. -/
def objectReference : Shape :=
  record (texts ["apiVersion", "fieldPath", "kind", "name", "namespace", "resourceVersion", "uid"])

/-- The shape of the condition of a pod or a claim. -/
def condition : Shape :=
  compound ["status", "type"] (texts ["message", "reason", "status", "type"] ++
    timestamps ["lastProbeTime", "lastTransitionTime"])

/-- A name with a value. -/
def namedValue : Shape := compound ["name", "value"] (texts ["name", "value"])

/-- The shape of a key of a configuration or a secret. -/
def keySelector : Shape :=
  compound ["key", "name"] (texts ["key", "name"] ++ flags ["optional"])

/-- A field of the pod itself. -/
def fieldSelector : Shape := compound ["fieldPath"] (texts ["apiVersion", "fieldPath"])

/-- A resource that a container asks for. -/
def resourceSelector : Shape :=
  compound ["resource"] (texts ["containerName", "resource"] ++ [("divisor", quantity)])

/-- The shape of the resources that are asked for. -/
def resources : Shape :=
  record (amounts ["limits", "requests"] ++
    [("claims", .list (compound ["name"] (texts ["name", "request"])))])

end Schema

end VolumeMigration
