import VolumeMigration.Proofs.Run.Scenario
import VolumeMigration.Proofs.Strategy.Building
import VolumeMigration.Proofs.Transfer.Starting
import VolumeMigration.Proofs.Transfer.Wiring

/-!
# The relay comes first

A pod that copies to a relay which is not ready, or to a wrong host, wastes its attempt. Of every
execution through a relay `Tunnel.RelayFirst` says that it creates its objects in one order, and
that those beside the source follow only when the last look at a pod has shown the relay ready and
the host is known (`Tunnel.RelayOpen`). It holds whatever the clusters answer and however the
execution ends (`Tunnel.run_relayFirst`).
-/

namespace VolumeMigration

namespace Call

/-- Whether a call looks at a pod. -/
def isPodState : Call → Bool
  | .podState _ _ => true
  | _ => false

/-- Whether a call asks for the host of a service. -/
def isIngress : Call → Bool
  | .serviceIngress _ _ => true
  | _ => false

theorem isPodState_of_isCreate {call : Call} (create : call.isCreate = true) :
    call.isPodState = false := by
  cases call <;> simp_all [isCreate, isPodState]

theorem isPodState_of_isIngress {call : Call} (ingress : call.isIngress = true) :
    call.isPodState = false := by
  cases call <;> simp_all [isIngress, isPodState]

theorem isIngress_of_isProbe {call : Call} (probe : call.isProbe = true) :
    call.isIngress = false := by
  cases call <;> simp_all [isProbe, isIngress]

theorem isIngress_of_isDelete {call : Call} (delete : call.isDelete = true) :
    call.isIngress = false := by
  cases call <;> simp_all [isDelete, isIngress]

end Call

theorem Component.name_inj {component other : Component} :
    component.name = other.name ↔ component = other := by
  cases component <;> cases other <;> decide

/-- The labels tell the attempt and the part. -/
theorem Manifest.labels_inj {attemptId otherId : String} {component other : Component} :
    labels attemptId component = labels otherId other ↔
      attemptId = otherId ∧ component = other := by
  simp [labels, labelsFor, Component.name_inj, and_comm]

namespace Tunnel

/-- The strategy that copies through a relay which is exposed in a way. -/
def strategy : Exposure → Strategy
  | .clusterIp => rsyncInCluster
  | .loadBalancer => rsyncCrossCluster

/-- The host on which the service of a relay can be reached inside its cluster. -/
def clusterHost (context : AttemptContext) : String :=
  context.resourceName "sshd" ++ "." ++ context.request.destination.ns

/-- The host on which a service can be reached is known after some calls. -/
inductive HostKnown (context : AttemptContext) (cluster : ClusterHandle) (service : ResourceRef)
    (made : List Exchange) : Exposure → String → Prop where
  | clusterIp : HostKnown context cluster service made .clusterIp (clusterHost context)
  | loadBalancer {host : String}
      (read : ⟨cluster, .serviceIngress service.ns service.name, .ok (some host)⟩ ∈ made) :
      HostKnown context cluster service made .loadBalancer host

/-- Some calls created a relay and its service and then read that the relay was ready; since that
look, which is the last one at a pod, the host became known. -/
structure ShowsOpen (context : AttemptContext) (exposure : Exposure) (cluster : ClusterHandle)
    (node : Option String) (host : String) (made : List Exchange) (relay created : ResourceRef)
    (before after : List Exchange) : Prop where
  parted : made =
    before ++ ⟨cluster, .podState relay.ns relay.name, .ok (.running true)⟩ :: after
  relay : ⟨cluster, .create (.pod (relayPod context node).toPod), .ok relay⟩ ∈ before
  service : ⟨cluster, .create (.service (service context exposure)), .ok created⟩ ∈ before
  last : ∀ exchange ∈ after, exchange.call.isPodState = false
  host : HostKnown context cluster created after exposure host

/-- Some calls have opened a relay and know the host on which it can be reached. -/
def RelayOpen (context : AttemptContext) (exposure : Exposure) (cluster : ClusterHandle)
    (node : Option String) (host : String) (made : List Exchange) : Prop :=
  ∃ relay created before after,
    ShowsOpen context exposure cluster node host made relay created before after

/-- The calls of an execution that open a relay first and copy to it afterwards. -/
structure RelayFirst (context : AttemptContext) (exposure : Exposure) (route : Route)
    (made : List Exchange) : Prop where
  joins : route.Joins context
  begun : Begun (planned context exposure route) made
  relaySide_ns : ∀ object ∈ relaySide context exposure route.destinationNode,
    object.metadata.ns = some context.request.destination.ns
  copySide_ns : ∀ object ∈ copySide context route.sourceNode route.host,
    object.metadata.ns = some context.request.source.ns
  opened : OnlyAfter
    (RelayOpen context exposure route.destination route.destinationNode route.host)
    (fun call => ∃ object ∈ copySide context route.sourceNode route.host, call = .create object)
    made
  connects : ∃ script, (copyPod context route.sourceNode route.host).toPod.scripts = [script] ∧
    (RsyncCommand.remoteCopy route.host).StartedBy script
  clusterHost : exposure = .clusterIp → route.host = clusterHost context
  inside : exposure = .clusterIp → ∀ exchange ∈ made, exchange.call.isIngress = false

open Provisioning

/-! ## Opening the relay -/

section RelayOpen

variable {context : AttemptContext} {exposure : Exposure} {cluster : ClusterHandle}
  {node : Option String} {host : String} {made : List Exchange}

theorem HostKnown.mono {service : ResourceRef} {more : List Exchange}
    (known : HostKnown context cluster service made exposure host) (covers : made ⊆ more) :
    HostKnown context cluster service more exposure host := by
  cases known with
  | clusterIp => exact .clusterIp
  | loadBalancer read => exact .loadBalancer (covers read)

theorem HostKnown.append {service : ResourceRef}
    (known : HostKnown context cluster service made exposure host) (more : List Exchange) :
    HostKnown context cluster service (made ++ more) exposure host :=
  known.mono (List.subset_append_left _ _)

/-- Inside its cluster a service has only one host. -/
theorem HostKnown.host_eq {service : ResourceRef}
    (known : HostKnown context cluster service made exposure host)
    (inside : exposure = .clusterIp) : host = clusterHost context := by
  cases known with
  | clusterIp => rfl
  | loadBalancer read => cases inside

theorem RelayOpen.append_left (opened : RelayOpen context exposure cluster node host made)
    (earlier : List Exchange) :
    RelayOpen context exposure cluster node host (earlier ++ made) := by
  rcases opened with ⟨relay, created, before, after, shows⟩
  refine ⟨relay, created, earlier ++ before, after, ?_, ?_, ?_, shows.last, shows.host⟩
  · rw [shows.parted, List.append_assoc]
  · exact List.mem_append_right _ shows.relay
  · exact List.mem_append_right _ shows.service

/-- A relay stays open while objects are created. -/
theorem RelayOpen.append_creates (opened : RelayOpen context exposure cluster node host made)
    {more : List Exchange} (creates : ∀ exchange ∈ more, exchange.call.isCreate = true) :
    RelayOpen context exposure cluster node host (made ++ more) := by
  rcases opened with ⟨relay, created, before, after, shows⟩
  refine ⟨relay, created, before, after ++ more, ?_, shows.relay, shows.service, ?_,
    shows.host.append more⟩
  · rw [shows.parted, List.append_assoc, List.cons_append]
  · intro exchange exchange_mem
    rcases List.mem_append.mp exchange_mem with early | late
    · exact shows.last exchange early
    · exact Call.isPodState_of_isCreate (creates exchange late)

end RelayOpen

/-- The host of a relay is known without a look at a pod. -/
theorem course_relayHost {context : AttemptContext} {cluster : ClusterHandle}
    {created : ResourceRef} {exposure : Exposure} {cancelled : Bool} {trace : List Occurrence}
    {leftovers : List String} {host : String}
    (course : (relayHost context cluster created exposure).Course cancelled trace leftovers
      (.ok host)) :
    HostKnown context cluster created (exchanges trace) exposure host ∧
      ∀ exchange ∈ exchanges trace, exchange.call.isPodState = false := by
  cases exposure with
  | clusterIp =>
      rcases Plan.course_done_iff.mp course with ⟨rfl, -, same⟩
      cases same
      refine ⟨.clusterIp, ?_⟩
      intro exchange exchange_mem
      cases exchange_mem
  | loadBalancer =>
      have ingress : (waitServiceIngress context.pacing cluster created).Within Call.isIngress :=
        within_pollUntil _ _ _ (Plan.within_ask cluster rfl)
      rcases lastLook_waitServiceIngress course with ⟨looks, made, -⟩
      constructor
      · apply HostKnown.loadBalancer
        rw [made]
        exact List.mem_append_right _ (List.mem_singleton.mpr rfl)
      · intro exchange exchange_mem
        exact Call.isPodState_of_isIngress ((course.within ingress).2 exchange exchange_mem)

/-- A relay that was opened was read to be ready at the last look at a pod, and its host is known.
-/
theorem course_openRelay {context : AttemptContext} {exposure : Exposure}
    {cluster : ClusterHandle} {node : Option String} {resources after : Provisioned}
    {cancelled : Bool} {trace : List Occurrence} {leftovers : List String} {host : String}
    (course : (openRelay context exposure cluster node resources).Course cancelled trace leftovers
      (.ok (.ok host, after))) :
    RelayOpen context exposure cluster node host (exchanges trace) := by
  rcases course_bind_ok course with ⟨_, _, keying, opening, _, _, rfl, -, -, opened⟩
  rcases course_bind_ok opened with ⟨relay, _, creating, serving, _, _, rfl, -, created, served⟩
  rcases course_bind_ok served with ⟨service, _, exposing, waiting, _, _, rfl, -, exposed, waited⟩
  rcases course_bind_ok waited with ⟨_, _, looking, asking, _, _, rfl, -, ready, asked⟩
  rcases lastLook_waitPodReady (course_lift_ok ready) with ⟨looks, looked, -⟩
  rcases course_relayHost (course_lift_ok asked) with ⟨known, last⟩
  refine ⟨relay, service,
    exchanges keying ++ exchanges creating ++ exchanges exposing ++ looks, exchanges asking,
    ?_, ?_, ?_, last, known⟩
  · simp only [exchanges_append, looked, List.append_assoc, List.cons_append, List.nil_append]
  · simp [course_create_ok created]
  · simp [course_create_ok exposed]

/-! ## Copying -/

/-- Both objects beside the source are asked for before the first look at the pod that copies. -/
theorem creatingFirst_copyTo (context : AttemptContext) (cluster : ClusterHandle)
    (node : Option String) (host : String) : (copyTo context cluster node host).CreatingFirst :=
  CreatingFirst.bind (within_create cluster rfl) fun _ =>
    CreatingFirst.bind (within_create cluster rfl) fun pod =>
      creatingFirst_lift (within_waitPodCompleted _ cluster pod rfl)

/-! ## Whole executions -/

/-- What stands beside the destination is labelled as part of the relay. -/
theorem metadata_relaySide {context : AttemptContext} {exposure : Exposure}
    {node : Option String} {object : ClusterObject}
    (object_mem : object ∈ relaySide context exposure node) :
    ∃ name, object.metadata =
      Manifest.metadata name context.request.destination.ns context.attemptId .sshd := by
  simp only [relaySide, List.mem_cons, List.not_mem_nil, or_false] at object_mem
  rcases object_mem with rfl | rfl | rfl <;> exact ⟨_, rfl⟩

/-- What stands beside the source is labelled as part of the copy. -/
theorem metadata_copySide {context : AttemptContext} {node : Option String} {host : String}
    {object : ClusterObject} (object_mem : object ∈ copySide context node host) :
    ∃ name, object.metadata =
      Manifest.metadata name context.request.source.ns context.attemptId .rsync := by
  simp only [copySide, List.mem_cons, List.not_mem_nil, or_false] at object_mem
  rcases object_mem with rfl | rfl <;> exact ⟨_, rfl⟩

/-- No object stands on both sides. -/
theorem not_mem_copySide {context : AttemptContext} {exposure : Exposure}
    {node otherNode : Option String} {host : String} {object : ClusterObject}
    (object_mem : object ∈ relaySide context exposure node) :
    object ∉ copySide context otherNode host := by
  intro other_mem
  rcases metadata_relaySide object_mem with ⟨name, relay_side⟩
  rcases metadata_copySide other_mem with ⟨other, copy_side⟩
  have labels := congrArg ObjectMeta.labels (relay_side.symm.trans copy_side)
  have parts := Manifest.labels_inj.mp (Option.some.inj labels)
  cases parts.2

theorem not_copying_of_others {context : AttemptContext} {node : Option String} {host : String}
    {made : List Exchange} (others : ∀ exchange ∈ made, exchange.call.isCreate = false) :
    ∀ exchange ∈ made, ¬∃ object ∈ copySide context node host, exchange.call = .create object := by
  rintro exchange exchange_mem ⟨object, -, created⟩
  have other := others exchange exchange_mem
  rw [created] at other
  cases other

/-- Calls that ask for nothing but objects beside the destination copy nothing. -/
theorem not_copying {context : AttemptContext} {exposure : Exposure} {cluster : ClusterHandle}
    {node copyNode : Option String} {host : String} {made : List Exchange}
    (begun : Begun ((relaySide context exposure node).map (cluster, ·)) made) :
    ∀ exchange ∈ made,
      ¬∃ object ∈ copySide context copyNode host, exchange.call = .create object := by
  rintro ⟨asked, call, result⟩ exchange_mem ⟨object, object_mem, rfl⟩
  have requested := begun.requests.subset (request_mem exchange_mem)
  rcases List.mem_map.mp requested with ⟨other, other_mem, same⟩
  cases same
  exact not_mem_copySide other_mem object_mem

/-! ## From the relay to the copy -/

/-- The calls along a route ask for the planned objects in order, and for those beside the source
only while the relay is open. -/
structure Opens (context : AttemptContext) (exposure : Exposure) (route : Route)
    (made : List Exchange) : Prop where
  clusterHost : exposure = .clusterIp → route.host = clusterHost context
  begun : Begun (planned context exposure route) made
  opened : OnlyAfter
    (RelayOpen context exposure route.destination route.destinationNode route.host)
    (fun call => ∃ object ∈ copySide context route.sourceNode route.host, call = .create object)
    made

section Opens

variable {context : AttemptContext} {exposure : Exposure} {source destination : ClusterHandle}
  {sourceNode destinationNode : Option String}

/-- As long as nothing beside the source is asked for, any host will do. -/
theorem opens_of_begun {made : List Exchange}
    (begun : Begun ((relaySide context exposure destinationNode).map (destination, ·)) made) :
    Opens context exposure
      ⟨source, destination, sourceNode, destinationNode, clusterHost context⟩ made where
  clusterHost _ := rfl
  begun := begun.mono _
  opened := onlyAfter_of_none (not_copying begun)

/-- Once the relay is open, what stands beside the source may follow. -/
theorem opens_append {host : String} {opening copying : List Exchange}
    (finished :
      Finished ((relaySide context exposure destinationNode).map (destination, ·)) opening)
    (relayOpen : RelayOpen context exposure destination destinationNode host opening)
    (begun : Begun ((copySide context sourceNode host).map (source, ·)) copying)
    (createsFirst : CreatesFirst copying) :
    Opens context exposure ⟨source, destination, sourceNode, destinationNode, host⟩
      (opening ++ copying) where
  clusterHost := by
    rcases relayOpen with ⟨_, _, _, _, shows⟩
    exact shows.host.host_eq
  begun := finished.begins begun
  opened := by
    refine OnlyAfter.append (onlyAfter_of_none (not_copying finished.begun)) ?_
    -- between the relay and an object beside the source, objects are created and nothing else
    rintro earlier later exchange parted ⟨object, -, created⟩
    apply relayOpen.append_creates
    apply createsFirst parted
    rw [created]
    rfl

/-- Calls that create nothing may stand before and after. -/
theorem Opens.between {route : Route} {made earlier later : List Exchange}
    (opens : Opens context exposure route made)
    (before : ∀ exchange ∈ earlier, exchange.call.isCreate = false)
    (after : ∀ exchange ∈ later, exchange.call.isCreate = false) :
    Opens context exposure route (earlier ++ made ++ later) where
  clusterHost := opens.clusterHost
  begun := by
    have begun := (finished_of_others before).begins opens.begun
    exact begun.append_others after
  opened := by
    -- they copy nothing, and what was found before they are made stays found
    refine OnlyAfter.append (OnlyAfter.append ?_ ?_) ?_
    · exact onlyAfter_of_none (not_copying_of_others before)
    · exact opens.opened.mono fun _ relayOpen => relayOpen.append_left _
    · exact onlyAfter_of_none (not_copying_of_others after)

/-- Calls along a route between the clusters of the request open the relay first. -/
theorem Opens.relayFirst {route : Route} {made : List Exchange}
    (opens : Opens context exposure route made) (joins : route.Joins context)
    (inside : exposure = .clusterIp → ∀ exchange ∈ made, exchange.call.isIngress = false) :
    RelayFirst context exposure route made where
  joins := joins
  begun := opens.begun
  relaySide_ns object object_mem := by
    rcases metadata_relaySide object_mem with ⟨name, metadata⟩
    rw [metadata]
    rfl
  copySide_ns object object_mem := by
    rcases metadata_copySide object_mem with ⟨name, metadata⟩
    rw [metadata]
    rfl
  opened := opens.opened
  connects := ⟨_, rfl, RsyncCommand.startedBy_transferScript _ _ _⟩
  clusterHost := opens.clusterHost
  inside := inside

/-- What an execution does once it knows the clusters and the nodes of the volumes. -/
theorem course_opens {resources : Provisioned} {cancelled : Bool} {trace : List Occurrence}
    {leftovers : List String} {ended : Except Failure (Except Failure Unit × Provisioned)}
    (course : ((openRelay context exposure destination destinationNode >>= fun host =>
      copyTo context source sourceNode host) resources).Course cancelled trace leftovers ended) :
    ∃ host,
      Opens context exposure ⟨source, destination, sourceNode, destinationNode, host⟩
        (exchanges trace) ∧
      ((∃ after, ended = .ok (.ok (), after)) →
        Finished
          (planned context exposure ⟨source, destination, sourceNode, destinationNode, host⟩)
          (exchanges trace)) := by
  have relay := builds_openRelay context exposure destination destinationNode
  rcases course_bind course with ⟨failure, rfl, failed⟩ | ⟨failure, after, rfl, failed⟩ |
    ⟨host, middle, early, late, noted, more, rfl, rfl, opened, copied⟩
  · refine ⟨_, opens_of_begun (relay.begins failed), ?_⟩
    rintro ⟨_, well⟩
    cases well
  · refine ⟨_, opens_of_begun (relay.begins failed), ?_⟩
    rintro ⟨_, well⟩
    cases well
  · have copy := builds_copyTo context source sourceNode host
    have finished := relay.finishes opened
    rw [exchanges_append]
    refine ⟨host, opens_append finished (course_openRelay opened) (copy.begins copied)
      (creatingFirst_copyTo context source sourceNode host copied), ?_⟩
    rintro ⟨after, rfl⟩
    exact finished.append (copy.finishes copied)

end Opens

/-- Inside one cluster no host of a load balancer is asked for. -/
theorem within_transfer_clusterIp (context : AttemptContext) :
    (transfer .clusterIp context).Within fun call => !call.isIngress := by
  have probes : (probeNodes context).Within fun call => !call.isIngress :=
    (within_probeNodes context).mono fun call probe => by simp [Call.isIngress_of_isProbe probe]
  refine (within_ofExcept _).bind fun source => (within_ofExcept _).bind fun destination =>
    (Provisioning.within_lift probes).bind fun nodes => Within.bind ?_ fun host => ?_
  · exact (within_create destination rfl).bind fun _ =>
      (within_create destination rfl).bind fun relay =>
        (within_create destination rfl).bind fun service =>
          (within_lift (within_waitPodReady _ destination relay rfl)).bind fun _ =>
            within_lift trivial
  · exact (within_create source rfl).bind fun _ =>
      (within_create source rfl).bind fun pod =>
        within_lift (within_waitPodCompleted _ source pod rfl)

theorem execute_eq (exposure : Exposure) (context : AttemptContext) :
    (strategy exposure).execute context = withResources (transfer exposure context) := by
  cases exposure <;> rfl

/-- Inside one cluster no course of a transfer asks for the host of a load balancer. -/
theorem not_ingress_of_course {context : AttemptContext} {exposure : Exposure}
    {resources : Provisioned} {cancelled : Bool} {trace : List Occurrence}
    {leftovers : List String} {ended : Except Failure (Except Failure Unit × Provisioned)}
    (course : (transfer exposure context resources).Course cancelled trace leftovers ended)
    (inside : exposure = .clusterIp) :
    ∀ exchange ∈ exchanges trace, exchange.call.isIngress = false := by
  subst inside
  intro exchange exchange_mem
  have within := within_transfer_clusterIp context resources
  simpa using (course.within within).2 exchange exchange_mem

/-- An execution fails and only probes, or it opens its relay first. It ends well only after it
created all that it plans. -/
theorem course_execute {context : AttemptContext} {exposure : Exposure} {cancelled : Bool}
    {trace : List Occurrence} {leftovers : List String} {outcome : Except Failure Unit}
    (course : ((strategy exposure).execute context).Course cancelled trace leftovers outcome) :
    (outcome ≠ .ok () ∧ ∀ exchange ∈ exchanges trace, exchange.call.isProbe = true) ∨
      ∃ route, RelayFirst context exposure route (exchanges trace) ∧
        (outcome = .ok () → Finished (planned context exposure route) (exchanges trace)) := by
  rw [execute_eq] at course
  rcases course_withResources (accountable_transfer exposure context) course with
    ⟨work, teardown, _, result, resources, rfl, worked, deleted, well⟩
  have deletes := isDelete_of_deletions deleted
  have ingress := not_ingress_of_course worked
  rcases course_transfer_probed worked with ⟨failure, same, probes⟩ |
    ⟨source, destination, sourceNode, destinationNode, first, second, _, _, found, reached, rfl, -,
      probes, opening⟩
  · cases same
    rw [exchanges_append, List.map_eq_nil_iff.mp deleted, List.append_nil]
    refine .inl ⟨?_, probes⟩
    intro ended_well
    cases well ended_well
  have before : ∀ exchange ∈ exchanges first, exchange.call.isCreate = false :=
    fun exchange exchange_mem => Call.isCreate_of_isProbe (probes exchange exchange_mem)
  have after : ∀ exchange ∈ exchanges teardown, exchange.call.isCreate = false :=
    fun exchange exchange_mem => Call.isCreate_of_isDelete (deletes exchange exchange_mem)
  rcases course_opens opening with ⟨host, opens, finished⟩
  rw [exchanges_append] at ingress ⊢
  rw [exchanges_append]
  refine .inr ⟨_, (opens.between before after).relayFirst ⟨found, reached⟩ ?_, ?_⟩
  · intro inside exchange exchange_mem
    rcases List.mem_append.mp exchange_mem with worked | released
    · exact ingress inside exchange worked
    · exact Call.isIngress_of_isDelete (deletes exchange released)
  · intro ended_well
    cases well ended_well
    exact (finished ⟨_, rfl⟩).between before after

/-- An execution that asks for its copying pod has created the service of the relay, and has read
its host unless that is the one inside the cluster. -/
theorem RelayFirst.hostKnown {context : AttemptContext} {exposure : Exposure} {route : Route}
    {made : List Exchange} (relayFirst : RelayFirst context exposure route made)
    (copies : (route.source, .pod (copyPod context route.sourceNode route.host).toPod) ∈
      requests made) :
    ∃ created, ⟨route.destination, .create (.service (service context exposure)), .ok created⟩ ∈
        made ∧ HostKnown context route.destination created made exposure route.host := by
  rcases exists_of_request copies with ⟨result, asked⟩
  rcases List.append_of_mem asked with ⟨earlier, later, rfl⟩
  rcases relayFirst.opened rfl ⟨_, by simp [copySide], rfl⟩ with
    ⟨relay, created, before, after, shows⟩
  have early : ∀ {exchange : Exchange}, exchange ∈ before ∨ exchange ∈ after →
      exchange ∈ earlier := by
    intro exchange listed
    rw [shows.parted, List.mem_append, List.mem_cons]
    exact listed.imp_right .inr
  refine ⟨created, List.mem_append_left _ (early (.inl shows.service)), ?_⟩
  exact (shows.host.mono fun _ listed => early (.inr listed)).append _

variable {σ : Type}

/-- The calls that an execution makes in a world. -/
def callsOf (exposure : Exposure) (context : AttemptContext) (environment : Environment σ)
    (world : World σ) : List Exchange :=
  exchanges (world.since (((strategy exposure).execute context).run environment world).2)

/-- Every execution through a relay only probes, or it opens its relay first. -/
theorem run_relayFirst (exposure : Exposure) (context : AttemptContext)
    (environment : Environment σ) (world : World σ) :
    (∀ exchange ∈ callsOf exposure context environment world, exchange.call.isProbe = true) ∨
      ∃ route, RelayFirst context exposure route (callsOf exposure context environment world) := by
  rcases Plan.run_course environment ((strategy exposure).execute context) world with
    ⟨trace, leftovers, course, follows, -⟩
  rw [callsOf, follows.since]
  rcases course_execute course with ⟨-, probes⟩ | ⟨route, relayFirst, -⟩
  · exact .inl probes
  · exact .inr ⟨route, relayFirst⟩

/-- Between two clusters in which every call succeeds, all that is planned is created, and the host
is the one that the load balancer reports. -/
theorem run_relayFirst_distant :
    let made := callsOf .loadBalancer Quiet.distantContext Quiet.serving (World.start ())
    ∃ route, RelayFirst Quiet.distantContext .loadBalancer route made ∧
      route.host = "localhost" ∧ built made = planned Quiet.distantContext .loadBalancer route := by
  intro made
  have asks : (requests made).length = 5 := by decide +kernel
  have creates : (built made).length = 5 := by decide +kernel
  have reads : ∀ exchange ∈ made, exchange.call.isIngress = true →
      exchange = ⟨⟨1⟩, .serviceIngress "default" "sshd", .ok (some "localhost")⟩ := by
    decide +kernel
  rcases run_relayFirst .loadBalancer Quiet.distantContext Quiet.serving (World.start ()) with
    probes | ⟨route, relayFirst⟩
  · have others : ∀ exchange ∈ made, exchange.call.isCreate = false :=
      fun exchange exchange_mem => Call.isCreate_of_isProbe (probes exchange exchange_mem)
    rw [built_eq_nil others] at creates
    cases creates
  · have all := relayFirst.begun.requests.eq_of_length asks
    rcases relayFirst.hostKnown (by rw [all]; simp [planned, copySide]) with ⟨_, -, known⟩
    refine ⟨route, relayFirst, ?_, relayFirst.begun.built.eq_of_length creates⟩
    cases known with
    | loadBalancer read =>
        injection reads _ read rfl with _ _ answered
        exact Option.some.inj (Except.ok.inj answered)

end Tunnel

end VolumeMigration
