import VolumeMigration.Cluster.Call
import VolumeMigration.Kubernetes.Decoding
import VolumeMigration.Kubernetes.Encoding

/-!
# Objects as they are sent

A server gets an object to create as JSON. `SentObject.ofObject` writes an object of a migration;
`SentObject.read?` takes over an object from elsewhere with all fields that objects of its kind
have, whether or not a migration looks at them.
-/

namespace VolumeMigration

open Json (Decoder Shape)

/-- An object in the form in which it is sent. -/
structure SentObject where
  kind : ResourceKind
  ns : Option String
  json : Json

/-- The metadata of an object of a kind. -/
def ObjectMeta.decodeOf : ResourceKind → Decoder ObjectMeta
  | .pod => fun json => (Pod.decode json).map Pod.metadata
  | .service => fun json => (Service.decode json).map Service.metadata
  | .secret => fun json => (Secret.decode json).map Secret.metadata

namespace SentObject

/-- The shape that objects of a kind have. -/
def shape : ResourceKind → Shape
  | .pod => Schema.pod
  | .service => Schema.service
  | .secret => Schema.secret

/-- The kind as objects name it. -/
def kindName : ResourceKind → String
  | .pod => "Pod"
  | .service => "Service"
  | .secret => "Secret"

/-- An object as it is sent. -/
def ofObject (object : ClusterObject) : SentObject :=
  { kind := object.kind, ns := object.metadata.ns, json := object.toJson }

/-- An object of a kind from elsewhere. -/
def read? (kind : ResourceKind) (json : Json) : Option SentObject :=
  (ObjectMeta.decodeOf kind json).map fun metadata =>
    { kind
      ns := metadata.ns
      json := .object ([("apiVersion", .string "v1"), ("kind", .string (kindName kind))] ++
        ((shape kind).settled json).members) }

end SentObject

end VolumeMigration
