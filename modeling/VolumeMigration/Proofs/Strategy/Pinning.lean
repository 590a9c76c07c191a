import VolumeMigration.Proofs.Run.Scenario
import VolumeMigration.Proofs.Strategy.Fitting
import VolumeMigration.Proofs.Strategy.Gate

/-!
# Where the pods of a tunnel are kept

A volume that is attached to a node can only be mounted there, so an execution through a relay keeps
each of its pods to the node where its volume is in use. What counts is the first live user that the
execution itself reads (`firstLiveNode`): if that user waits to be scheduled the pod is kept
nowhere, and other live users that run on a node do not change it.
-/

namespace VolumeMigration

/-- The node of the first live user of a claim; none if that user is not scheduled. -/
def firstLiveNode (users : List ClaimUser) : Option String :=
  (users.find? ClaimUser.isLive).bind ClaimUser.node

/-- The node that is told of a volume is that of its first live user. -/
theorem MountStatus.node_ofUsers (users : List ClaimUser) :
    (ofUsers users).node = firstLiveNode users := by
  rw [ofUsers, firstLiveNode]
  cases users.find? ClaimUser.isLive <;> rfl

/-- Where a pod requires to run. -/
def Pod.affinity (pod : Pod) : Option Affinity :=
  pod.spec.bind PodSpec.affinity

namespace Tunnel

/-- A relay is kept to its node, if it has one. -/
theorem affinity_relayPod (context : AttemptContext) (node : Option String) :
    (relayPod context node).toPod.affinity = node.map Manifest.pinnedTo :=
  rfl

/-- A pod that copies is kept to its node, if it has one. -/
theorem affinity_copyPod (context : AttemptContext) (node : Option String) (host : String) :
    (copyPod context node host).toPod.affinity = node.map Manifest.pinnedTo :=
  rfl

/-- An execution through a relay reads the users of both volumes at first, and keeps each of its
pods to the node of the first live user that it read of its volume. -/
structure FollowsUsers (context : AttemptContext) (source destination : VolumeAnswers)
    (reads work : List Exchange) : Prop where
  reads : VolumeReads context source destination reads
  pods : ∀ {cluster : ClusterHandle} {pod : Pod} {result : Except Failure ResourceRef},
    ⟨cluster, .create (.pod pod), result⟩ ∈ work →
      (AttemptPod context .sshd pod ∧ cluster = destination.cluster ∧
          pod.affinity = (firstLiveNode destination.users).map Manifest.pinnedTo) ∨
        (AttemptPod context .rsync pod ∧ cluster = source.cluster ∧
          pod.affinity = (firstLiveNode source.users).map Manifest.pinnedTo)

/-- The nodes that are found are those of the first live users that were read. -/
theorem course_foundNodes {context : AttemptContext} {cancelled : Bool}
    {trace : List Occurrence} {leftovers : List String} {nodes : Option String × Option String}
    (course : (probeNodes context).Course cancelled trace leftovers (.ok nodes)) :
    ∃ source destination, VolumeReads context source destination (exchanges trace) ∧
      nodes = (firstLiveNode source.users, firstLiveNode destination.users) := by
  rcases course.of_bind_ok with ⟨answer, first, second, _, _, rfl, rfl, checked, rest⟩
  rcases answer with reason | volumes
  · rcases Plan.course_fail_iff.mp rest with ⟨-, -, impossible⟩
    cases impossible
  · rcases Plan.course_done_iff.mp rest with ⟨rfl, -, same⟩
    rcases course_acceptedProbe checked with ⟨source, destination, reads, rfl, -⟩
    cases same
    refine ⟨source, destination, by simpa using reads, ?_⟩
    rw [← MountStatus.node_ofUsers, ← MountStatus.node_ofUsers]
    rfl

/-- A course of an execution only probes, or keeps its pods to the nodes of the first live users. -/
theorem followsUsers_of_course {context : AttemptContext} {exposure : Exposure}
    {cancelled : Bool} {trace : List Occurrence} {leftovers : List String}
    {outcome : Except Failure Unit}
    (course : ((strategy exposure).execute context).Course cancelled trace leftovers outcome) :
    (∀ exchange ∈ exchanges trace, exchange.call.isProbe = true) ∨
      ∃ source destination reads work, exchanges trace = reads ++ work ∧
        FollowsUsers context source destination reads work := by
  rw [execute_eq] at course
  rcases course_withResources (accountable_transfer exposure context) course with
    ⟨work, teardown, _, result, resources, rfl, worked, deleted, -⟩
  rcases course_transfer_found worked with ⟨failure, same, probes⟩ |
    ⟨sourceCluster, destinationCluster, nodes, first, second, _, _, found, reached, rfl, -, probed,
      opening⟩
  · cases same
    rw [exchanges_append, List.map_eq_nil_iff.mp deleted, List.append_nil]
    exact .inl probes
  rcases course_foundNodes probed with ⟨source, destination, reads, rfl⟩
  rcases course_opens opening with ⟨host, opens, -⟩
  have same_source : source.cluster = sourceCluster :=
    Except.ok.inj (reads.source_cluster.symm.trans found)
  have same_destination : destination.cluster = destinationCluster :=
    Except.ok.inj (reads.destination_cluster.symm.trans reached)
  refine .inr ⟨source, destination, exchanges first, exchanges second ++ exchanges teardown, ?_,
    reads, ?_⟩
  · rw [exchanges_append, exchanges_append, List.append_assoc]
  intro cluster pod result created
  have deletes := isDelete_of_deletions deleted
  have created_working : ⟨cluster, .create (.pod pod), result⟩ ∈ exchanges second := by
    rcases List.mem_append.mp created with working | tearing
    · exact working
    · cases deletes _ tearing
  have asked := opens.begun.requests.subset (request_mem created_working)
  rcases pod_mem_planned asked with ⟨rfl, rfl⟩ | ⟨rfl, rfl⟩
  · exact .inl ⟨.relay _, same_destination.symm, affinity_relayPod _ _⟩
  · exact .inr ⟨.copier _ _, same_source.symm, affinity_copyPod _ _ _⟩

variable {σ : Type}

/-- Every execution through a relay only probes, or it keeps its pods to the nodes of the first
live users of their volumes. A first live user that is not scheduled leaves the pod unbound, even
if others are. -/
theorem run_followsUsers (exposure : Exposure) (context : AttemptContext)
    (environment : Environment σ) (world : World σ) :
    (∀ exchange ∈ callsOf exposure context environment world, exchange.call.isProbe = true) ∨
      ∃ source destination reads work,
        callsOf exposure context environment world = reads ++ work ∧
          FollowsUsers context source destination reads work := by
  rcases Plan.run_course environment ((strategy exposure).execute context) world with
    ⟨trace, leftovers, course, follows, -⟩
  rw [callsOf, follows.since]
  exact followsUsers_of_course course

end Tunnel

namespace Quiet

/-- The request, if it does not mind users. -/
def heedless : Request :=
  { request with options := { request.options with ignoreMounted := true } }

/-- A pod that waits to be scheduled, and one that runs on a node. -/
def crowd : List ClaimUser :=
  [{ pod := "web-1", node := none, phase := .pending, managed := false },
    { pod := "web-0", node := some "node-7", phase := .running, managed := false }]

/-- The clusters in which both of them use the source. -/
def crowded : Environment Unit :=
  { respond := fun _ call _ state =>
      ({ result :=
          match call with
          | .claimUsers _ "old" => .ok crowd
          | call => .ok (serve call)
         cancels := false }, state)
    cancelTime := none }

/-- The first attempt at this request. -/
def crowdedContext : AttemptContext :=
  engine.context heedless clusters 0

/-- The calls of its execution. -/
def crowdedCalls : List Exchange :=
  Tunnel.callsOf .clusterIp crowdedContext crowded (World.start ())

theorem reads_crowd :
    ⟨⟨0⟩, .claimUsers "default" "old", .ok crowd⟩ ∈ crowdedCalls := by
  decide +kernel

theorem creates_unbound :
    (⟨⟨0⟩, .pod (Tunnel.copyPod crowdedContext none (Tunnel.clusterHost crowdedContext)).toPod⟩ :
      PlacedObject) ∈ requests crowdedCalls := by
  decide +kernel

end Quiet

/-- A live user runs on a node, and yet the pod that copies is kept nowhere. -/
theorem Tunnel.unbound_crowded :
    Quiet.heedless.options.ignoreMounted = true ∧
      ⟨⟨0⟩, .claimUsers "default" "old", .ok Quiet.crowd⟩ ∈ Quiet.crowdedCalls ∧
      (∃ user ∈ Quiet.crowd, user.isLive = true ∧ user.node = some "node-7") ∧
      ∃ pod, (⟨0⟩, .pod pod) ∈ requests Quiet.crowdedCalls ∧
        AttemptPod Quiet.crowdedContext .rsync pod ∧ pod.affinity = none := by
  refine ⟨rfl, Quiet.reads_crowd, by decide, _, Quiet.creates_unbound, .copier _ _, ?_⟩
  exact affinity_copyPod Quiet.crowdedContext none _

end VolumeMigration
