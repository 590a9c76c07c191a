import VolumeMigration.Proofs.Strategy.Transfers
import VolumeMigration.Proofs.Volume.Leftovers

/-!
# Transfers wait for free volumes

A transfer reads both claims and their users before anything else, and goes on only if the request
ignores users or there are no live ones. `Transfers.gated` says so of every course of a transfer:
the four reads come first and show free volumes, or nothing is created.
-/

namespace VolumeMigration

/-- No user of a volume is live: each has ended or was created by a migration. -/
def NoneLive (users : List ClaimUser) : Prop :=
  ∀ user ∈ users, user.managed = true ∨ user.phase.isTerminal = true

/-- A volume is not in use exactly if none of its users is live. -/
theorem MountStatus.mounted_ofUsers_iff (users : List ClaimUser) :
    (ofUsers users).mounted = false ↔ NoneLive users := by
  have live_iff (user : ClaimUser) :
      ¬user.isLive = true ↔ user.managed = true ∨ user.phase.isTerminal = true := by
    cases managed : user.managed <;> simp [ClaimUser.isLive, managed]
  rw [← Bool.not_eq_true, mounted_ofUsers]
  constructor
  · intro unused user user_mem
    exact (live_iff user).mp fun live => unused ⟨user, user_mem, live⟩
  · rintro none_live ⟨user, user_mem, live⟩
    exact (live_iff user).mpr (none_live user user_mem) live

/-- A request that minds users is refused unless both volumes are free. -/
theorem mounted_of_mountViolation {request : Request} {source destination : MountStatus}
    (guarded : request.options.ignoreMounted = false)
    (accepted : mountViolation request source destination = none) :
    source.mounted = false ∧ destination.mounted = false := by
  cases source_mounted : source.mounted <;> cases destination_mounted : destination.mounted <;>
    simp_all [mountViolation]

/-- What the reads of a volume were answered. -/
structure VolumeAnswers where
  cluster : ClusterHandle
  claim : ClaimInfo
  users : List ClaimUser

namespace VolumeAnswers

/-- The call that read the claim. -/
def claimRead (answers : VolumeAnswers) (volume : VolumeLocator) : Exchange :=
  ⟨answers.cluster, .claim volume.ns volume.name, .ok answers.claim⟩

/-- The call that read the users. -/
def usersRead (answers : VolumeAnswers) (volume : VolumeLocator) : Exchange :=
  ⟨answers.cluster, .claimUsers volume.ns volume.name, .ok answers.users⟩

/-- The calls that read a volume. -/
def reads (answers : VolumeAnswers) (volume : VolumeLocator) : List Exchange :=
  [answers.claimRead volume, answers.usersRead volume]

/-- What is made of the answers. -/
def probe (answers : VolumeAnswers) : VolumeProbe :=
  { claim := answers.claim, mount := .ofUsers answers.users }

end VolumeAnswers

theorem course_mountStatusOf {cluster : ClusterHandle} {volume : VolumeLocator}
    {cancelled : Bool} {trace : List Occurrence} {leftovers : List String} {status : MountStatus}
    (course : (mountStatusOf cluster volume).Course cancelled trace leftovers (.ok status)) :
    ∃ users, exchanges trace = [⟨cluster, .claimUsers volume.ns volume.name, .ok users⟩] ∧
      status = .ofUsers users := by
  rcases course.of_bind_ok with ⟨users, first, second, noted, more, rfl, rfl, ask, ended⟩
  rcases Plan.course_done_iff.mp ended with ⟨rfl, rfl, same⟩
  cases same
  exact ⟨users, by simp [ask.of_ask.2.exchanges], rfl⟩

/-- A volume is probed by reading its claim and then its users. -/
theorem course_probeVolume {cluster : ClusterHandle} {volume : VolumeLocator}
    {cancelled : Bool} {trace : List Occurrence} {leftovers : List String} {probe : VolumeProbe}
    (course : (probeVolume cluster volume).Course cancelled trace leftovers (.ok probe)) :
    ∃ answers : VolumeAnswers, answers.cluster = cluster ∧
      exchanges trace = answers.reads volume ∧ probe = answers.probe := by
  rcases course.of_bind_ok with ⟨claim, first, second, noted, more, rfl, rfl, ask, rest⟩
  rcases rest.of_bind_ok with ⟨status, third, last, noted, more, rfl, rfl, asked, ended⟩
  rcases course_mountStatusOf asked with ⟨users, users_read, rfl⟩
  rcases Plan.course_done_iff.mp ended with ⟨rfl, rfl, same⟩
  cases same
  refine ⟨⟨cluster, claim, users⟩, rfl, ?_, rfl⟩
  rw [exchanges_append, exchanges_append, ask.of_ask.2.exchanges, users_read]
  rfl

/-- What was read of both volumes of a request. -/
structure VolumeReads (context : AttemptContext) (source destination : VolumeAnswers)
    (reads : List Exchange) : Prop where
  source_cluster : context.sourceCluster = .ok source.cluster
  destination_cluster : context.destinationCluster = .ok destination.cluster
  reads_eq : reads =
    source.reads context.request.source ++ destination.reads context.request.destination

/-- What was read of both volumes of a request when they were found free. -/
structure FreeReads (context : AttemptContext) (source destination : VolumeAnswers)
    (reads : List Exchange) : Prop extends VolumeReads context source destination reads where
  source_free : NoneLive source.users
  destination_free : NoneLive destination.users

/-- Both volumes are probed by reading them in their own clusters. -/
theorem course_probeVolumes {context : AttemptContext} {cancelled : Bool}
    {trace : List Occurrence} {leftovers : List String} {volumes : ProbedVolumes}
    (course : (probeVolumes context).Course cancelled trace leftovers (.ok volumes)) :
    ∃ source destination, VolumeReads context source destination (exchanges trace) ∧
      volumes = { source := source.probe, destination := destination.probe } := by
  rcases course.of_bind_ok with ⟨_, silent, rest, _, _, rfl, rfl, source_found, placed⟩
  rcases placed.of_bind_ok with ⟨_, mute, probes, _, _, rfl, rfl, destination_found, probing⟩
  rcases probing.of_bind_ok with ⟨_, early, later, _, _, rfl, rfl, source_probed, remaining⟩
  rcases remaining.of_bind_ok with ⟨_, late, last, _, _, rfl, rfl, destination_probed, ended⟩
  rcases Plan.course_ofExcept_iff.mp source_found with ⟨rfl, -, source_cluster⟩
  rcases Plan.course_ofExcept_iff.mp destination_found with ⟨rfl, -, destination_cluster⟩
  rcases course_probeVolume source_probed with ⟨source, rfl, source_read, rfl⟩
  rcases course_probeVolume destination_probed with ⟨destination, rfl, destination_read, rfl⟩
  rcases Plan.course_done_iff.mp ended with ⟨rfl, -, same⟩
  cases same
  refine ⟨source, destination, ⟨source_cluster.symm, destination_cluster.symm, ?_⟩, rfl⟩
  simp [source_read, destination_read]

/-- Volumes that are accepted were read, and nothing in what was read forbids the migration. -/
theorem course_acceptedProbe {context : AttemptContext} {cancelled : Bool}
    {trace : List Occurrence} {leftovers : List String} {volumes : ProbedVolumes}
    (course : (checkedProbe context).Course cancelled trace leftovers (.ok (.ok volumes))) :
    ∃ source destination, VolumeReads context source destination (exchanges trace) ∧
      volumes = { source := source.probe, destination := destination.probe } ∧
      mountViolation context.request source.probe.mount destination.probe.mount = none := by
  rcases course.of_bind_ok with ⟨_, first, second, _, _, rfl, rfl, probing, judged⟩
  rcases course_probeVolumes probing with ⟨source, destination, reads, rfl⟩
  dsimp only at judged
  cases verdict : mountViolation context.request source.probe.mount destination.probe.mount with
  | some reason =>
      rw [verdict] at judged
      rcases Plan.course_done_iff.mp judged with ⟨-, -, impossible⟩
      cases impossible
  | none =>
      rw [verdict] at judged
      rcases Plan.course_done_iff.mp judged with ⟨rfl, -, same⟩
      cases same
      exact ⟨source, destination, by simpa using reads, rfl, verdict⟩

/-- A probe of a request that minds users lets only free volumes pass. -/
theorem course_checkedProbe {context : AttemptContext} {cancelled : Bool}
    {trace : List Occurrence} {leftovers : List String} {volumes : ProbedVolumes}
    (guarded : context.request.options.ignoreMounted = false)
    (course : (checkedProbe context).Course cancelled trace leftovers (.ok (.ok volumes))) :
    ∃ source destination, FreeReads context source destination (exchanges trace) := by
  rcases course_acceptedProbe course with ⟨source, destination, reads, -, accepted⟩
  rcases mounted_of_mountViolation guarded accepted with ⟨source_free, destination_free⟩
  refine ⟨source, destination, reads, ?_, ?_⟩
  · exact (MountStatus.mounted_ofUsers_iff _).mp source_free
  · exact (MountStatus.mounted_ofUsers_iff _).mp destination_free

theorem MountBoth.course_chooseNode {context : AttemptContext} {cancelled : Bool}
    {trace : List Occurrence} {leftovers : List String} {node : Option String}
    (guarded : context.request.options.ignoreMounted = false)
    (course : (chooseNode context).Course cancelled trace leftovers (.ok node)) :
    ∃ source destination, FreeReads context source destination (exchanges trace) := by
  rcases course.of_bind_ok with ⟨answer, first, second, _, _, rfl, rfl, checked, rest⟩
  rcases answer with reason | volumes
  · rcases Plan.course_fail_iff.mp rest with ⟨-, -, impossible⟩
    cases impossible
  · dsimp only at rest
    split at rest
    · rcases Plan.course_fail_iff.mp rest with ⟨-, -, impossible⟩
      cases impossible
    · rcases Plan.course_done_iff.mp rest with ⟨rfl, -, -⟩
      simpa using course_checkedProbe guarded checked

theorem Tunnel.course_probeNodes {context : AttemptContext} {cancelled : Bool}
    {trace : List Occurrence} {leftovers : List String} {nodes : Option String × Option String}
    (guarded : context.request.options.ignoreMounted = false)
    (course : (probeNodes context).Course cancelled trace leftovers (.ok nodes)) :
    ∃ source destination, FreeReads context source destination (exchanges trace) := by
  rcases course.of_bind_ok with ⟨answer, first, second, _, _, rfl, rfl, checked, rest⟩
  rcases answer with reason | volumes
  · rcases Plan.course_fail_iff.mp rest with ⟨-, -, impossible⟩
    cases impossible
  · rcases Plan.course_done_iff.mp rest with ⟨rfl, -, -⟩
    simpa using course_checkedProbe guarded checked

/-! ## Transfers -/

open Provisioning

theorem within_work_of_looks {α : Type} {plan : Plan α} (looks : plan.Within Call.isLook) :
    (lift plan).Within Call.isWork := by
  refine within_lift (looks.mono fun call look => ?_)
  simp [Call.isWork, look]

theorem MountBoth.within_copy (context : AttemptContext) (cluster : ClusterHandle)
    (node : Option String) :
    Within Call.isWork (create cluster (.pod (pod context node).toPod) >>= fun created =>
      lift (waitPodCompleted context.pacing cluster created)) :=
  (within_create cluster rfl).bind fun created =>
    within_work_of_looks (within_waitPodCompleted _ cluster created rfl)

theorem Tunnel.within_openRelay (context : AttemptContext) (exposure : Exposure)
    (cluster : ClusterHandle) (node : Option String) :
    Within Call.isWork (openRelay context exposure cluster node) :=
  (within_create cluster rfl).bind fun _ =>
    (within_create cluster rfl).bind fun relay =>
      (within_create cluster rfl).bind fun service =>
        (within_work_of_looks (within_waitPodReady _ cluster relay rfl)).bind fun _ =>
          within_work_of_looks (within_relayHost context cluster service exposure)

theorem Tunnel.within_copyTo (context : AttemptContext) (cluster : ClusterHandle)
    (node : Option String) (host : String) :
    Within Call.isWork (copyTo context cluster node host) :=
  (within_create cluster rfl).bind fun _ =>
    (within_create cluster rfl).bind fun pod =>
      within_work_of_looks (within_waitPodCompleted _ cluster pod rfl)

/-- What a transfer of a request that minds users has called: nothing but probes, or the reads that
showed both volumes free and after that no probes. -/
def Gated (context : AttemptContext) (calls : List Exchange) : Prop :=
  (∀ exchange ∈ calls, exchange.call.isProbe = true) ∨
    ∃ source destination reads work, calls = reads ++ work ∧
      FreeReads context source destination reads ∧
      ∀ exchange ∈ work, exchange.call.isWork = true

/-- A part of an attempt that probes before it works is gated. -/
theorem gated_of_probe {α β : Type} {context : AttemptContext} {plan : Plan α}
    {next : α → Provisioning β} {resources : Provisioned} {cancelled : Bool}
    {trace : List Occurrence} {leftovers : List String}
    {ended : Except Failure (Except Failure β × Provisioned)}
    (probes : plan.Within Call.isProbe)
    (free : ∀ {reads noted value}, plan.Course cancelled reads noted (.ok value) →
      ∃ source destination, FreeReads context source destination (exchanges reads))
    (works : ∀ value, (next value).Within Call.isWork)
    (course : ((lift plan >>= next) resources).Course cancelled trace leftovers ended) :
    Gated context (exchanges trace) := by
  rcases course_lift_bind course with ⟨failure, probed, -⟩ |
    ⟨value, first, second, noted, more, rfl, rfl, probed, worked⟩
  · exact .inl (probed.within probes).2
  · rcases free probed with ⟨source, destination, reads⟩
    refine .inr ⟨source, destination, exchanges first, exchanges second, ?_, reads, ?_⟩
    · exact exchanges_append first second
    · exact (worked.within (works value resources)).2

/-- A transfer in one pod creates nothing before it has read that both volumes are free. -/
theorem MountBoth.gated_transfer {context : AttemptContext}
    (guarded : context.request.options.ignoreMounted = false) {resources : Provisioned}
    {cancelled : Bool} {trace : List Occurrence} {leftovers : List String}
    {ended : Except Failure (Except Failure Unit × Provisioned)}
    (course : (transfer context resources).Course cancelled trace leftovers ended) :
    Gated context (exchanges trace) := by
  rcases course_ofExcept_bind course with ⟨failure, -, rfl, -⟩ | ⟨cluster, -, probed⟩
  · exact .inl (by simp)
  · exact gated_of_probe (within_chooseNode context)
      (fun reading => course_chooseNode guarded reading) (within_copy context cluster) probed

/-- A transfer through a relay creates nothing before it has read that both volumes are free. -/
theorem Tunnel.gated_transfer {exposure : Exposure} {context : AttemptContext}
    (guarded : context.request.options.ignoreMounted = false) {resources : Provisioned}
    {cancelled : Bool} {trace : List Occurrence} {leftovers : List String}
    {ended : Except Failure (Except Failure Unit × Provisioned)}
    (course : (transfer exposure context resources).Course cancelled trace leftovers ended) :
    Gated context (exchanges trace) := by
  rcases course_ofExcept_bind course with ⟨failure, -, rfl, -⟩ | ⟨sourceCluster, -, placed⟩
  · exact .inl (by simp)
  rcases course_ofExcept_bind placed with ⟨failure, -, rfl, -⟩ | ⟨destinationCluster, -, probed⟩
  · exact .inl (by simp)
  refine gated_of_probe (within_probeNodes context)
    (fun reading => course_probeNodes guarded reading) ?_ probed
  intro nodes
  exact (within_openRelay context exposure destinationCluster nodes.2).bind
    fun host => within_copyTo context sourceCluster nodes.1 host

/-- Whatever the clusters answer, every transfer of a request that minds users is gated. -/
theorem Transfers.gated {strategy : Strategy} {transfer : AttemptContext → Provisioning Unit}
    (transfers : Transfers strategy transfer) {context : AttemptContext}
    (guarded : context.request.options.ignoreMounted = false) {resources : Provisioned}
    {cancelled : Bool} {trace : List Occurrence} {leftovers : List String}
    {ended : Except Failure (Except Failure Unit × Provisioned)}
    (course : (transfer context resources).Course cancelled trace leftovers ended) :
    Gated context (exchanges trace) := by
  cases transfers with
  | mountBoth => exact MountBoth.gated_transfer guarded course
  | inCluster => exact Tunnel.gated_transfer guarded course
  | crossCluster => exact Tunnel.gated_transfer guarded course

end VolumeMigration
