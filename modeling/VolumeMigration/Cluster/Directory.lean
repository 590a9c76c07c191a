import VolumeMigration.Failure

/-!
# The clusters of a run

`ClusterSet` gives the connected cluster for an access. It is a finite map whose keys are compared
as accesses are (`ClusterAccess.Same`): inserting under an access that names a known cluster takes
the place of what was there.
-/

namespace VolumeMigration

/-- Connected clusters with their accesses. -/
structure ClusterSet (η : Type) where
  entries : List (ClusterAccess × η)

namespace ClusterSet

variable {η : Type}

/-- No clusters. -/
def empty : ClusterSet η := ⟨[]⟩

/-- A set with a cluster under an access, in place of any other under that access. -/
def insert (clusters : ClusterSet η) (access : ClusterAccess) (cluster : η) : ClusterSet η :=
  ⟨(access, cluster) :: clusters.entries.filter fun entry => ¬entry.1.Same access⟩

/-- The cluster that was last inserted under an access. -/
def get? (clusters : ClusterSet η) (access : ClusterAccess) : Option η :=
  (clusters.entries.find? fun entry => entry.1.Same access).map (·.2)

/-- The cluster under an access; having none is a fault of the configuration. -/
def get (clusters : ClusterSet η) (access : ClusterAccess) : Except Failure η :=
  match clusters.get? access with
  | some cluster => .ok cluster
  | none => .error (.configuration (.missingClient access))

/-- How many accesses lead to a cluster. -/
def size (clusters : ClusterSet η) : Nat := clusters.entries.length

/-- Whether no access leads to a cluster. -/
def isEmpty (clusters : ClusterSet η) : Bool := clusters.entries.isEmpty

end ClusterSet

end VolumeMigration
