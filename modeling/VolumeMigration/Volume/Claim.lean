/-!
# Claims and the pods that use them

What a cluster tells about a claim: how it may be accessed, the node its volume is pinned to, and
the pods whose volumes refer to it. `ClaimInfo.readableFromManyNodes` and
`ClaimInfo.writableFromManyNodes` say whether pods on several nodes may read or write the claim at
the same time.
-/

namespace VolumeMigration

/-- How a claim may be accessed. -/
inductive AccessMode where
  | readWriteOnce
  | readOnlyMany
  | readWriteMany
  | readWriteOncePod
  deriving DecidableEq

namespace AccessMode

/-- The mode as claims write it. -/
def name : AccessMode → String
  | .readWriteOnce => "ReadWriteOnce"
  | .readOnlyMany => "ReadOnlyMany"
  | .readWriteMany => "ReadWriteMany"
  | .readWriteOncePod => "ReadWriteOncePod"

/-- The mode that a claim asks for. -/
def parse? : String → Option AccessMode
  | "ReadWriteOnce" => some .readWriteOnce
  | "ReadOnlyMany" => some .readOnlyMany
  | "ReadWriteMany" => some .readWriteMany
  | "ReadWriteOncePod" => some .readWriteOncePod
  | _ => none

/-- Every access mode is read back from its name. -/
@[simp]
theorem parse?_name (mode : AccessMode) : parse? mode.name = some mode := by
  cases mode <;> rfl

end AccessMode

/-- What a cluster knows about a claim. -/
structure ClaimInfo where
  ns : String
  name : String
  accessModes : List AccessMode
  /-- The node that the bound volume is pinned to. -/
  pinnedNode : Option String
  deriving DecidableEq

namespace ClaimInfo

/-- Whether pods on several nodes may read the claim at once. -/
def readableFromManyNodes (claim : ClaimInfo) : Bool :=
  claim.accessModes.any fun mode => mode = .readOnlyMany || mode = .readWriteMany

/-- Whether pods on several nodes may write the claim at once. -/
def writableFromManyNodes (claim : ClaimInfo) : Bool :=
  claim.accessModes.contains .readWriteMany

end ClaimInfo

/-- The phase of a pod's life. -/
inductive PodPhase where
  | pending
  | running
  | succeeded
  | failed
  | unknown
  deriving DecidableEq

namespace PodPhase

/-- The phase as pods report it. -/
def name : PodPhase → String
  | .pending => "Pending"
  | .running => "Running"
  | .succeeded => "Succeeded"
  | .failed => "Failed"
  | .unknown => "Unknown"

/-- The phase with a name; every other text, and none, is the unknown phase. -/
def parse : Option String → PodPhase
  | some "Pending" => .pending
  | some "Running" => .running
  | some "Succeeded" => .succeeded
  | some "Failed" => .failed
  | _ => .unknown

/-- Every phase is read back from its name. -/
@[simp]
theorem parse_name (phase : PodPhase) : parse (some phase.name) = phase := by
  cases phase <;> rfl

/-- Whether a pod never leaves a phase. -/
def isTerminal : PodPhase → Bool
  | .succeeded | .failed => true
  | _ => false

end PodPhase

/-- A pod whose volumes refer to a claim. -/
structure ClaimUser where
  pod : String
  node : Option String
  phase : PodPhase
  /-- Whether a migration created the pod. -/
  managed : Bool
  deriving DecidableEq

/-- Whether a volume is in use, and where. -/
structure MountStatus where
  mounted : Bool
  node : Option String
  pod : Option String
  deriving DecidableEq

/-- The status of a volume that is not in use. -/
def MountStatus.free : MountStatus :=
  { mounted := false, node := none, pod := none }

/-- What is observed of a pod that a migration created. -/
inductive PodState where
  /-- Not started; a waiting container gives a reason. -/
  | pending (reason : Option String)
  | running (ready : Bool)
  | succeeded
  | failed (exitCode : Option Int) (reason : Option String)
  | unknown
  /-- The pod no longer exists. -/
  | gone
  deriving DecidableEq

end VolumeMigration
