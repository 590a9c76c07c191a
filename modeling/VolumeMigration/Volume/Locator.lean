import VolumeMigration.Access

/-!
# Where a volume is

A volume is a claim: a name in a namespace of a cluster.
-/

namespace VolumeMigration

/-- A claim in a namespace of a cluster. -/
structure VolumeLocator where
  access : ClusterAccess
  ns : String
  name : String
  deriving DecidableEq

namespace VolumeLocator

/-- Two volumes are in the same cluster. -/
def SameCluster (volume other : VolumeLocator) : Prop :=
  volume.access.Same other.access

instance (volume other : VolumeLocator) : Decidable (volume.SameCluster other) :=
  inferInstanceAs (Decidable (volume.access.Same other.access))

/-- Two volumes are in the same namespace of the same cluster. -/
def SameNamespace (volume other : VolumeLocator) : Prop :=
  volume.SameCluster other ∧ volume.ns = other.ns

instance (volume other : VolumeLocator) : Decidable (volume.SameNamespace other) :=
  inferInstanceAs (Decidable (_ ∧ _))

/-- Two locators lead to one claim. -/
def Same (volume other : VolumeLocator) : Prop :=
  volume.SameNamespace other ∧ volume.name = other.name

instance (volume other : VolumeLocator) : Decidable (volume.Same other) :=
  inferInstanceAs (Decidable (_ ∧ _))

/-- The claim as messages show it. -/
def text (volume : VolumeLocator) : String :=
  volume.ns ++ "/" ++ volume.name

end VolumeLocator

end VolumeMigration
