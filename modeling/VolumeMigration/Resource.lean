/-!
# Ephemeral resources

A resource is an object that a migration creates in a cluster for the time of one attempt. Pods
come before services and these before secrets; resources of one kind are ordered by namespace and
then by name, code point by code point.
-/

namespace VolumeMigration

/-- The kind of an ephemeral resource. -/
inductive ResourceKind where
  | pod
  | service
  | secret
  deriving DecidableEq

namespace ResourceKind

/-- The kind as messages show it. -/
def name : ResourceKind → String
  | .pod => "pod"
  | .service => "service"
  | .secret => "secret"

/-- The place of a kind in the order of kinds. -/
def rank : ResourceKind → Nat
  | .pod => 0
  | .service => 1
  | .secret => 2

end ResourceKind

/-- A reference to a resource that a cluster created. -/
structure ResourceRef where
  kind : ResourceKind
  ns : String
  name : String
  deriving DecidableEq

namespace ResourceRef

/-- The resource as messages show it. -/
def text (resource : ResourceRef) : String :=
  resource.kind.name ++ "/" ++ resource.ns ++ "/" ++ resource.name

/-- Whether a reference comes before another: by kind, then namespace, then name. -/
def precedes (resource other : ResourceRef) : Bool :=
  resource.kind.rank < other.kind.rank ||
    (resource.kind = other.kind &&
      (resource.ns < other.ns || (resource.ns = other.ns && resource.name < other.name)))

/-- Puts a reference into its place of a sorted list that does not hold it yet. -/
def insertSorted (resource : ResourceRef) : List ResourceRef → List ResourceRef
  | [] => [resource]
  | other :: rest =>
      if resource = other then other :: rest
      else if resource.precedes other then resource :: other :: rest
      else other :: insertSorted resource rest

/-- The distinct references of a list in their order. -/
def sortedDistinct (resources : List ResourceRef) : List ResourceRef :=
  resources.foldr insertSorted []

end ResourceRef

end VolumeMigration
