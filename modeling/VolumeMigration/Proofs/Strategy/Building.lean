import VolumeMigration.Proofs.Plan.Building
import VolumeMigration.Proofs.Strategy.Completion

/-!
# What the transfers build

`MountBoth.planned` and `Tunnel.planned` list the objects of a transfer in the order in which they
are created. A transfer that ends well has created all of them, and the last thing that it looked
at was the pod that copies, which had succeeded (`Transfers.accomplished`).
-/

namespace VolumeMigration

/-- What an execution creates that mounts both volumes in one pod. -/
def MountBoth.planned (context : AttemptContext) (cluster : ClusterHandle)
    (node : Option String) : List PlacedObject :=
  [(cluster, .pod (pod context node).toPod)]

namespace Tunnel

/-- What an execution through a relay finds out: the clusters, the nodes where the volumes are in
use, and the host on which the relay can be reached. -/
structure Route where
  source : ClusterHandle
  destination : ClusterHandle
  sourceNode : Option String
  destinationNode : Option String
  host : String

/-- A route is between the clusters of a request. -/
structure Route.Joins (route : Route) (context : AttemptContext) : Prop where
  source : context.sourceCluster = .ok route.source
  destination : context.destinationCluster = .ok route.destination

/-- What is created beside the destination: the accepted key, the relay and its service. -/
def relaySide (context : AttemptContext) (exposure : Exposure) (node : Option String) :
    List ClusterObject :=
  [.secret (keysSecret context), .pod (relayPod context node).toPod,
    .service (service context exposure)]

/-- What is created beside the source: the private key and the pod that copies to a host. -/
def copySide (context : AttemptContext) (node : Option String) (host : String) :
    List ClusterObject :=
  [.secret (keySecret context), .pod (copyPod context node host).toPod]

/-- What an execution through a relay creates, in order. -/
def planned (context : AttemptContext) (exposure : Exposure) (route : Route) :
    List PlacedObject :=
  (relaySide context exposure route.destinationNode).map (route.destination, ·) ++
    (copySide context route.sourceNode route.host).map (route.source, ·)

/-- Of the planned objects two are pods: the relay, and the one that copies. -/
theorem pod_mem_planned {context : AttemptContext} {exposure : Exposure} {route : Route}
    {cluster : ClusterHandle} {pod : Pod}
    (pod_mem : (cluster, .pod pod) ∈ planned context exposure route) :
    (cluster = route.destination ∧ pod = (relayPod context route.destinationNode).toPod) ∨
      (cluster = route.source ∧ pod = (copyPod context route.sourceNode route.host).toPod) := by
  simpa [planned, relaySide, copySide] using pod_mem

end Tunnel

/-! ## Parts of transfers -/

namespace Provisioning

theorem builds_look {α : Type} {plan : Plan α} (looks : plan.Within Call.isLook) :
    (lift plan).Builds [] :=
  builds_lift (looks.mono fun _ => Call.isRead_of_isLook)

/-- A part that probes first only probes, or goes on from what it found. -/
theorem course_probe_bind {α β : Type} {plan : Plan α} {next : α → Provisioning β}
    {resources : Provisioned} {cancelled : Bool} {trace : List Occurrence}
    {leftovers : List String} {ended : Except Failure (Except Failure β × Provisioned)}
    (probes : plan.Within Call.isProbe)
    (course : ((lift plan >>= next) resources).Course cancelled trace leftovers ended) :
    (∃ failure, ended = .ok (.error failure, resources) ∧
        ∀ exchange ∈ exchanges trace, exchange.call.isProbe = true) ∨
      ∃ value first second noted more, trace = first ++ second ∧ leftovers = noted ++ more ∧
        (∀ exchange ∈ exchanges first, exchange.call.isProbe = true) ∧
        (next value resources).Course (cancelledAfter cancelled first) second more ended := by
  rcases course_lift_bind course with ⟨failure, probed, rfl⟩ |
    ⟨value, first, second, noted, more, rfl, rfl, probed, followed⟩
  · exact .inl ⟨failure, rfl, (probed.within probes).2⟩
  · exact .inr ⟨value, first, second, noted, more, rfl, rfl, (probed.within probes).2, followed⟩

end Provisioning

open Provisioning

namespace MountBoth

theorem builds_copy (context : AttemptContext) (cluster : ClusterHandle)
    (node : Option String) :
    (create cluster (.pod (pod context node).toPod) >>= fun created =>
      lift (waitPodCompleted context.pacing cluster created)).Builds
        (planned context cluster node) :=
  (builds_create cluster _).bind fun created =>
    builds_look (within_waitPodCompleted _ cluster created rfl)

end MountBoth

namespace Tunnel

/-- Opening a relay builds what stands beside the destination. -/
theorem builds_openRelay (context : AttemptContext) (exposure : Exposure)
    (cluster : ClusterHandle) (node : Option String) :
    (openRelay context exposure cluster node).Builds
      ((relaySide context exposure node).map (cluster, ·)) :=
  (builds_create cluster _).bind fun _ =>
    (builds_create cluster _).bind fun relay =>
      (builds_create cluster _).bind fun service =>
        (builds_look (within_waitPodReady _ cluster relay rfl)).bind fun _ =>
          builds_look (within_relayHost context cluster service exposure)

/-- Copying to a relay builds what stands beside the source. -/
theorem builds_copyTo (context : AttemptContext) (cluster : ClusterHandle)
    (node : Option String) (host : String) :
    (copyTo context cluster node host).Builds ((copySide context node host).map (cluster, ·)) :=
  (builds_create cluster _).bind fun _ =>
    (builds_create cluster _).bind fun pod =>
      builds_look (within_waitPodCompleted _ cluster pod rfl)

/-- A transfer through a relay only probes, or goes on from the clusters and the nodes that it
found. -/
theorem course_transfer_found {exposure : Exposure} {context : AttemptContext}
    {resources : Provisioned} {cancelled : Bool} {trace : List Occurrence}
    {leftovers : List String} {ended : Except Failure (Except Failure Unit × Provisioned)}
    (course : (transfer exposure context resources).Course cancelled trace leftovers ended) :
    (∃ failure, ended = .ok (.error failure, resources) ∧
        ∀ exchange ∈ exchanges trace, exchange.call.isProbe = true) ∨
      ∃ source destination nodes first second noted more,
        context.sourceCluster = .ok source ∧ context.destinationCluster = .ok destination ∧
        trace = first ++ second ∧ leftovers = noted ++ more ∧
        (probeNodes context).Course cancelled first noted (.ok nodes) ∧
        ((openRelay context exposure destination nodes.2 >>= fun host =>
          copyTo context source nodes.1 host) resources).Course
            (cancelledAfter cancelled first) second more ended := by
  rcases course_ofExcept_bind course with ⟨failure, -, rfl, rfl⟩ | ⟨source, found, placed⟩
  · exact .inl ⟨failure, rfl, by simp⟩
  rcases course_ofExcept_bind placed with ⟨failure, -, rfl, rfl⟩ | ⟨destination, reached, probing⟩
  · exact .inl ⟨failure, rfl, by simp⟩
  rcases course_lift_bind probing with ⟨failure, probed, rfl⟩ |
    ⟨nodes, first, second, noted, more, rfl, rfl, probed, followed⟩
  · exact .inl ⟨failure, rfl, (probed.within (within_probeNodes context)).2⟩
  · exact .inr ⟨source, destination, nodes, first, second, noted, more, found, reached, rfl, rfl,
      probed, followed⟩

/-- A transfer through a relay only probes, or goes on to open the relay and to copy. -/
theorem course_transfer_probed {exposure : Exposure} {context : AttemptContext}
    {resources : Provisioned} {cancelled : Bool} {trace : List Occurrence}
    {leftovers : List String} {ended : Except Failure (Except Failure Unit × Provisioned)}
    (course : (transfer exposure context resources).Course cancelled trace leftovers ended) :
    (∃ failure, ended = .ok (.error failure, resources) ∧
        ∀ exchange ∈ exchanges trace, exchange.call.isProbe = true) ∨
      ∃ source destination sourceNode destinationNode first second noted more,
        context.sourceCluster = .ok source ∧ context.destinationCluster = .ok destination ∧
        trace = first ++ second ∧ leftovers = noted ++ more ∧
        (∀ exchange ∈ exchanges first, exchange.call.isProbe = true) ∧
        ((openRelay context exposure destination destinationNode >>= fun host =>
          copyTo context source sourceNode host) resources).Course
            (cancelledAfter cancelled first) second more ended := by
  rcases course_transfer_found course with refused |
    ⟨source, destination, nodes, first, second, noted, more, found, reached, rfl, rfl, probed,
      followed⟩
  · exact .inl refused
  · exact .inr ⟨source, destination, nodes.1, nodes.2, first, second, noted, more, found, reached,
      rfl, rfl, (probed.within (within_probeNodes context)).2, followed⟩

end Tunnel

/-! ## Transfers that end well -/

/-- What a strategy of this library creates, with the pod that copies. -/
inductive Blueprint (context : AttemptContext) (source : ClusterHandle) :
    Strategy → List PlacedObject → ClusterObject → Prop where
  | mountBoth (node : Option String) :
      Blueprint context source mountBoth (MountBoth.planned context source node)
        (.pod (MountBoth.pod context node).toPod)
  | inCluster (route : Tunnel.Route) (joins : route.Joins context) (same : route.source = source) :
      Blueprint context source rsyncInCluster (Tunnel.planned context .clusterIp route)
        (.pod (Tunnel.copyPod context route.sourceNode route.host).toPod)
  | crossCluster (route : Tunnel.Route) (joins : route.Joins context)
      (same : route.source = source) :
      Blueprint context source rsyncCrossCluster (Tunnel.planned context .loadBalancer route)
        (.pod (Tunnel.copyPod context route.sourceNode route.host).toPod)

/-- Some calls created a pod, and the last of them read that it had succeeded. -/
def ReadSucceededLast (cluster : ClusterHandle) (pod : ClusterObject) (made : List Exchange) :
    Prop :=
  ∃ resource earlier,
    made = earlier ++ [⟨cluster, .podState resource.ns resource.name, .ok PodState.succeeded⟩] ∧
      ⟨cluster, .create pod, .ok resource⟩ ∈ earlier

/-- Some calls created all that a strategy plans, and the last of them read in the cluster of the
source that the pod that copies had succeeded. -/
def Accomplished (context : AttemptContext) (strategy : Strategy) (made : List Exchange) : Prop :=
  ∃ source planned pod, context.sourceCluster = .ok source ∧
    Blueprint context source strategy planned pod ∧ built made = planned ∧
    ReadSucceededLast source pod made

theorem ReadSucceededLast.append_left {cluster : ClusterHandle} {pod : ClusterObject}
    {made : List Exchange} (read : ReadSucceededLast cluster pod made) (before : List Exchange) :
    ReadSucceededLast cluster pod (before ++ made) := by
  rcases read with ⟨resource, earlier, rfl, created⟩
  refine ⟨resource, before ++ earlier, ?_, List.mem_append_right _ created⟩
  rw [List.append_assoc]

/-- A pod that is created and waited for was read as succeeded at last if all ends well. -/
theorem Provisioning.readSucceededLast {pacing : Pacing} {cluster : ClusterHandle}
    {pod : ClusterObject} {resources after : Provisioned} {cancelled : Bool}
    {trace : List Occurrence} {leftovers : List String}
    (course : ((create cluster pod >>= fun created =>
      lift (waitPodCompleted pacing cluster created)) resources).Course cancelled trace leftovers
        (.ok (.ok (), after))) :
    ReadSucceededLast cluster pod (exchanges trace) := by
  rcases course_bind_ok course with ⟨resource, _, first, second, _, _, rfl, -, created, waited⟩
  rcases lastLook_waitPodCompleted (course_lift_ok waited) with ⟨looks, made, -⟩
  refine ⟨resource, ⟨cluster, .create pod, .ok resource⟩ :: looks, ?_, List.mem_cons_self⟩
  rw [exchanges_append, course_create_ok created, made]
  rfl

/-- A transfer in one pod that ends well created that pod and saw it succeed. -/
theorem MountBoth.accomplished {context : AttemptContext} {resources after : Provisioned}
    {cancelled : Bool} {trace : List Occurrence} {leftovers : List String}
    (course : (transfer context resources).Course cancelled trace leftovers
      (.ok (.ok (), after))) : Accomplished context mountBoth (exchanges trace) := by
  rcases course_ofExcept_bind course with ⟨_, -, -, impossible⟩ | ⟨cluster, found, probing⟩
  · cases impossible
  rcases course_probe_bind (within_chooseNode context) probing with ⟨_, impossible, -⟩ |
    ⟨node, first, second, _, _, rfl, -, probes, copied⟩
  · cases impossible
  have finished := (finished_of_probes probes).append
    ((builds_copy context cluster node).finishes copied)
  refine ⟨cluster, _, _, found, .mountBoth node, ?_, ?_⟩
  · rw [exchanges_append]
    exact finished.built
  · rw [exchanges_append]
    exact (readSucceededLast copied).append_left _

/-- A transfer through a relay that ends well created all that is planned for its route, and saw the
pod that copies succeed. -/
theorem Tunnel.accomplished {exposure : Exposure} {context : AttemptContext}
    {resources after : Provisioned} {cancelled : Bool} {trace : List Occurrence}
    {leftovers : List String}
    (course : (transfer exposure context resources).Course cancelled trace leftovers
      (.ok (.ok (), after))) :
    ∃ route : Route, route.Joins context ∧
      built (exchanges trace) = planned context exposure route ∧
      ReadSucceededLast route.source (.pod (copyPod context route.sourceNode route.host).toPod)
        (exchanges trace) := by
  rcases course_transfer_probed course with ⟨_, impossible, -⟩ |
    ⟨source, destination, sourceNode, destinationNode, first, second, _, _, found, reached, rfl, -,
      probes, opening⟩
  · cases impossible
  rcases course_bind_ok opening with ⟨host, _, relay, copy, _, _, rfl, -, opened, copied⟩
  rcases course_bind_ok copied with ⟨_, _, key, last, _, _, rfl, -, -, waited⟩
  have finished := ((finished_of_probes probes).append
    ((builds_openRelay context exposure destination destinationNode).finishes opened)).append
      ((builds_copyTo context source sourceNode host).finishes copied)
  refine ⟨⟨source, destination, sourceNode, destinationNode, host⟩, ⟨found, reached⟩, ?_, ?_⟩
  · rw [exchanges_append, exchanges_append, ← List.append_assoc]
    exact finished.built
  · rw [exchanges_append, exchanges_append, exchanges_append]
    exact (((readSucceededLast waited).append_left _).append_left _).append_left _

/-- Whatever the clusters answer, a transfer ends well only after it created all that its strategy
plans, and with a look that shows that the pod that copies has succeeded. -/
theorem Transfers.accomplished {strategy : Strategy}
    {transfer : AttemptContext → Provisioning Unit} (transfers : Transfers strategy transfer)
    {context : AttemptContext} {resources after : Provisioned} {cancelled : Bool}
    {trace : List Occurrence} {leftovers : List String}
    (course : (transfer context resources).Course cancelled trace leftovers
      (.ok (.ok (), after))) : Accomplished context strategy (exchanges trace) := by
  cases transfers with
  | mountBoth => exact MountBoth.accomplished course
  | inCluster =>
      rcases Tunnel.accomplished course with ⟨route, joins, created, read⟩
      exact ⟨_, _, _, joins.source, .inCluster route joins rfl, created, read⟩
  | crossCluster =>
      rcases Tunnel.accomplished course with ⟨route, joins, created, read⟩
      exact ⟨_, _, _, joins.source, .crossCluster route joins rfl, created, read⟩

end VolumeMigration
