import VolumeMigration.Volume.Placement

/-!
# Where two volumes can be attached

A pod on some node can attach a volume that is tied to no other node, and also one whose claim may
be used from many nodes in the way that its side needs. `PlacesBoth` says what the placement of a
pod owes to the two volumes of a migration: the pod goes to a node where both can be attached, it is
refused where there is none or another pod keeps a volume for itself, and the scheduler is left to
choose only if neither volume is tied to a node.
-/

namespace VolumeMigration

/-- Pods on several nodes may use the claim at once, as one side of a migration does. -/
def ClaimInfo.Roams (claim : ClaimInfo) : Side → Prop
  | .source => claim.readableFromManyNodes = true
  | .destination => claim.writableFromManyNodes = true

namespace VolumeProbe

/-- The only pod that may use the volume is using it. -/
def Exclusive (probe : VolumeProbe) : Prop :=
  probe.mount.mounted = true ∧ AccessMode.readWriteOncePod ∈ probe.claim.accessModes

/-- A pod on a node can use the volume as one side of a migration. -/
inductive AttachableOn (probe : VolumeProbe) (side : Side) (node : String) : Prop where
  | untied (no_node : probe.node = none)
  | tied (same_node : probe.node = some node)
  | roaming (roams : probe.claim.Roams side)

theorem isTaken_iff (probe : VolumeProbe) : probe.isTaken = true ↔ probe.Exclusive := by
  simp [isTaken, Exclusive]

/-- A volume that is tied to a node and may not be used elsewhere keeps the pod there. -/
theorem AttachableOn.eq_of_tied {probe : VolumeProbe} {side : Side} {node tied : String}
    (attachable : probe.AttachableOn side node) (tied_node : probe.node = some tied)
    (fixed : ¬ probe.claim.Roams side) : tied = node := by
  cases attachable with
  | untied no_node => simp [no_node] at tied_node
  | tied same_node => exact Option.some.inj (tied_node.symm.trans same_node)
  | roaming roams => exact absurd roams fixed

end VolumeProbe

/-- A pod on a node can attach both volumes of a migration. -/
def BothAttachableOn (source destination : VolumeProbe) (node : String) : Prop :=
  source.AttachableOn .source node ∧ destination.AttachableOn .destination node

/-- Where a pod that mounts both volumes of a migration may be placed. -/
structure PlacesBoth (source destination : VolumeProbe)
    (placement : Except PlacementConflict (Option String)) : Prop where
  refused_iff : (∃ conflict, placement = .error conflict) ↔
    source.Exclusive ∨ destination.Exclusive ∨ ∀ node, ¬ BothAttachableOn source destination node
  unbound_iff : placement = .ok none ↔
    (¬ ∃ conflict, placement = .error conflict) ∧ source.node = none ∧ destination.node = none
  chosen : ∀ node, placement = .ok (some node) → BothAttachableOn source destination node ∧
    (source.node = some node ∨ destination.node = some node)

section Placements

variable {source destination : VolumeProbe}

/-- A volume that is taken rules out every node. -/
theorem placesBoth_of_exclusive {conflict : PlacementConflict}
    (taken : source.Exclusive ∨ destination.Exclusive) :
    PlacesBoth source destination (.error conflict) := by
  constructor
  · have refused : ∃ other, (.error conflict : Except PlacementConflict (Option String)) =
        .error other := ⟨conflict, rfl⟩
    rw [← or_assoc]
    exact ⟨fun _ => .inl taken, fun _ => refused⟩
  · simp
  · simp

/-- Two volumes that are tied to different nodes, of which neither may be used elsewhere. -/
theorem placesBoth_of_apart {sourceNode destinationNode : String}
    (source_tied : source.node = some sourceNode)
    (destination_tied : destination.node = some destinationNode)
    (apart : sourceNode ≠ destinationNode) (source_fixed : ¬ source.claim.Roams .source)
    (destination_fixed : ¬ destination.claim.Roams .destination) (conflict : PlacementConflict) :
    PlacesBoth source destination (.error conflict) := by
  have nowhere : ∀ node, ¬ BothAttachableOn source destination node := by
    intro node both
    apply apart
    rw [both.1.eq_of_tied source_tied source_fixed,
      both.2.eq_of_tied destination_tied destination_fixed]
  constructor
  · simp [nowhere]
  · simp
  · simp

/-- Volumes that are tied to no node can be mounted on any. -/
theorem placesBoth_unbound (source_free : ¬ source.Exclusive)
    (destination_free : ¬ destination.Exclusive) (source_untied : source.node = none)
    (destination_untied : destination.node = none) :
    PlacesBoth source destination (.ok none) := by
  have everywhere : ∀ node, BothAttachableOn source destination node := fun node =>
    ⟨.untied source_untied, .untied destination_untied⟩
  constructor
  · simp [source_free, destination_free, everywhere]
  · simp [source_untied, destination_untied]
  · simp

/-- A node that both volumes can be attached to is the answer if one of them is tied to it. -/
theorem placesBoth_bound {node : String} (source_free : ¬ source.Exclusive)
    (destination_free : ¬ destination.Exclusive)
    (both : BothAttachableOn source destination node)
    (tied : source.node = some node ∨ destination.node = some node) :
    PlacesBoth source destination (.ok (some node)) := by
  constructor
  · have somewhere : ¬ ∀ other, ¬ BothAttachableOn source destination other :=
      fun nowhere => nowhere node both
    simp [source_free, destination_free, somewhere]
  · rcases tied with tied | tied <;> simp [tied]
  · intro other same
    cases same
    exact ⟨both, tied⟩

end Placements

/-- Two probed volumes are placed on a node where both can be attached whenever there is one and no
other pod keeps them for itself. -/
theorem coMountNode_placesBoth (source destination : VolumeProbe) :
    PlacesBoth source destination (coMountNode source destination) := by
  unfold coMountNode
  split
  next taken => exact placesBoth_of_exclusive (.inl (source.isTaken_iff.mp taken))
  next source_free =>
    rw [VolumeProbe.isTaken_iff] at source_free
    split
    next taken => exact placesBoth_of_exclusive (.inr (destination.isTaken_iff.mp taken))
    next destination_free =>
      rw [VolumeProbe.isTaken_iff] at destination_free
      split
      next untied untied' => exact placesBoth_unbound source_free destination_free untied untied'
      next node tied untied =>
        exact placesBoth_bound source_free destination_free
          ⟨.tied tied, .untied untied⟩ (.inl tied)
      next node untied tied =>
        exact placesBoth_bound source_free destination_free
          ⟨.untied untied, .tied tied⟩ (.inr tied)
      next sourceNode destinationNode source_tied destination_tied =>
        split
        next same =>
          subst same
          exact placesBoth_bound source_free destination_free
            ⟨.tied source_tied, .tied destination_tied⟩
            (.inl source_tied)
        next apart =>
          split
          next writable =>
            exact placesBoth_bound source_free destination_free
              ⟨.tied source_tied, .roaming writable⟩
              (.inl source_tied)
          next destination_fixed =>
            split
            next readable =>
              exact placesBoth_bound source_free destination_free
                ⟨.roaming readable, .tied destination_tied⟩
                (.inr destination_tied)
            next source_fixed =>
              exact placesBoth_of_apart source_tied destination_tied apart source_fixed
                destination_fixed _

end VolumeMigration
