import VolumeMigration.Proofs.Plan.Achieving
import VolumeMigration.Proofs.Strategy.Fitting
import VolumeMigration.Proofs.Strategy.Gate

/-!
# Strategies under favourable conditions

Conditions are favourable (`AttemptContext.Favoured`) when the volumes keep answering as they do and
are not refused, whatever is asked for is created, and pods and services get ready and finish in
good time. Then every strategy can tell from the volumes alone whether it applies, and an execution
of one that applies ends well.
-/

namespace VolumeMigration

/-! ## Pods and services in good time -/

namespace PodState

/-- A pod has not started, and more waiting may change that. -/
def IsStarting : PodState → Prop
  | .pending none | .unknown => True
  | .pending (some reason) => reason ∉ fatalWaitingReasons
  | _ => False

/-- A pod runs or has ended well. -/
def HasStarted : PodState → Prop
  | .running _ | .succeeded => True
  | _ => False

/-- A pod that has started has not ended, as far as is known. -/
def IsCopying : PodState → Prop
  | .pending _ | .running _ | .unknown => True
  | _ => False

end PodState

/-- An answer that a wait bears with: a harmless one, or a failure of the cluster. -/
def Bears {α : Type} (harmless : α → Prop) : Except Failure α → Prop
  | .ok answer => harmless answer
  | .error failure => failure.kind = .cluster

/-- A look was answered, and the answer is what is waited for. -/
def Shows {α : Type} (wanted : α → Prop) : Except Failure α → Prop
  | .ok answer => wanted answer
  | .error _ => False

/-- Among some calls an object was created, and it was not looked at since. -/
def Fresh (made : List Exchange) (cluster : ClusterHandle) (object : ClusterObject)
    (resource : ResourceRef) (look : Call) : Prop :=
  ∃ earlier later, made = earlier ++ ⟨cluster, .create object, .ok resource⟩ :: later ∧
    ∀ exchange ∈ later, exchange.call ≠ look

/-- An object stays fresh as long as nothing looks at it. -/
theorem Fresh.append {made more : List Exchange} {cluster : ClusterHandle}
    {object : ClusterObject} {resource : ResourceRef} {look : Call}
    (fresh : Fresh made cluster object resource look)
    (others : ∀ exchange ∈ more, exchange.call ≠ look) :
    Fresh (made ++ more) cluster object resource look := by
  rcases fresh with ⟨earlier, later, rfl, unseen⟩
  refine ⟨earlier, later ++ more, by simp, ?_⟩
  rw [List.forall_mem_append]
  exact ⟨unseen, others⟩

/-- Looks at a pod show nothing harmful before they show within a limit what is waited for. -/
def Environment.FindsPod {σ : Type} (environment : Environment σ) (cluster : ClusterHandle)
    (pod : ResourceRef) (interval limit : Duration) (harmless wanted : PodState → Prop)
    (situation last : Situation σ) : Prop :=
  environment.Finds cluster (.podState pod.ns pod.name) interval (Bears harmless) (Shows wanted)
    (limit / interval) situation last

/-- What an attempt creates gets ready and finishes in good time, if it is looked at in the
intervals of the attempt: a relay gets ready and the service of a load balancer gets an address
within the limit for that, and every other pod starts within that limit and then succeeds within the
limit of the transfer. -/
structure AttemptContext.Punctual {σ : Type} (context : AttemptContext) (scene : Scene σ) :
    Prop where
  relay : ∀ {stage : Stage σ} {cluster : ClusterHandle} {pod : Pod} {created : ResourceRef},
    scene.Passes stage → AttemptPod context .sshd pod →
      Fresh stage.made cluster (.pod pod) created (.podState created.ns created.name) →
        ∃ last, scene.environment.FindsPod cluster created context.pacing.pollInterval
          context.pacing.readinessLimit (fun state => state.IsStarting ∨ state = .running false)
          (· = .running true) stage.situation last
  service : ∀ {stage : Stage σ} {cluster : ClusterHandle} {created : ResourceRef},
    scene.Passes stage →
      Fresh stage.made cluster (.service (Tunnel.service context .loadBalancer)) created
          (.serviceIngress created.ns created.name) →
        ∃ last, scene.environment.Finds cluster (.serviceIngress created.ns created.name)
          context.pacing.pollInterval (Bears (· = none)) (Shows (· ≠ none))
          (context.pacing.readinessLimit / context.pacing.pollInterval) stage.situation last
  copier : ∀ {stage : Stage σ} {cluster : ClusterHandle} {component : Component} {pod : Pod}
      {created : ResourceRef},
    scene.Passes stage → AttemptPod context component pod → component ≠ .sshd →
      Fresh stage.made cluster (.pod pod) created (.podState created.ns created.name) →
        ∃ started last,
          scene.environment.FindsPod cluster created context.pacing.pollInterval
              context.pacing.readinessLimit PodState.IsStarting PodState.HasStarted
              stage.situation started ∧
            scene.environment.FindsPod cluster created context.pacing.pollInterval
              context.pacing.transferLimit PodState.IsCopying (· = .succeeded) started last

section Waits

variable {σ : Type} {scene : Scene σ} {pacing : Pacing} {cluster : ClusterHandle}
  {pod service : ResourceRef} {situation middle last : Situation σ}
  {verdict : PodState → Verdict} {harmless wanted : PodState → Prop}

/-- What a look at a pod makes of the answer. -/
def judgePod (pod : ResourceRef) (verdict : PodState → Verdict) :
    Except Failure (Call.podState pod.ns pod.name).Answer → Except Failure (Option Unit)
  | .ok state =>
      match verdict state with
      | .reached => .ok (some ())
      | .waiting => .ok none
      | .hopeless failure => .error failure
  | .error failure => .error failure

theorem lookAtPod_eq (cluster : ClusterHandle) (pod : ResourceRef)
    (verdict : PodState → Verdict) :
    lookAtPod cluster pod verdict =
      judged cluster (.podState pod.ns pod.name) (judgePod pod verdict) := by
  change Plan.step _ _ = Plan.step _ _
  congr 1
  funext reply
  rcases reply with failure | state
  · rfl
  · change (verdict state).toPlan = Plan.ofExcept (judgePod pod verdict (.ok state))
    unfold judgePod
    dsimp only
    cases verdict state <;> rfl

theorem judges_judgePod (pod : ResourceRef)
    (waits : ∀ {state}, harmless state → verdict state = .waiting)
    (reaches : ∀ {state}, wanted state → verdict state = .reached) :
    Judges (judgePod pod verdict) (Bears harmless) (Shows wanted) := by
  constructor
  · intro answer borne
    rcases answer with failure | state
    · exact .excused borne
    · have judgement := waits borne
      simp only [judgePod, judgement]
      exact .answered none
  · intro answer shown
    rcases answer with failure | state
    · cases shown
    · have judgement := reaches shown
      simp only [judgePod, judgement]
      exact ⟨(), .answered _⟩

/-- A wait for a pod ends well if the looks find what it waits for. -/
theorem achieves_pollPod {interval limit : Duration} {positive : 0 < interval} {tooLate : Failure}
    (waits : ∀ {state}, harmless state → verdict state = .waiting)
    (reaches : ∀ {state}, wanted state → verdict state = .reached)
    (finds : scene.environment.FindsPod cluster pod interval limit harmless wanted situation
      last) :
    (pollUntil positive limit tooLate (lookAtPod cluster pod verdict)).Achieves scene
      (·.situation = situation) fun _ stage => stage.situation = last := by
  rw [lookAtPod_eq]
  exact achieves_pollUntil (judges_judgePod pod waits reaches) finds

theorem achieves_waitPodReady
    (finds : scene.environment.FindsPod cluster pod pacing.pollInterval pacing.readinessLimit
      (fun state => state.IsStarting ∨ state = .running false) (· = .running true) situation
      last) :
    (waitPodReady pacing cluster pod).Achieves scene (·.situation = situation)
      fun _ stage => stage.situation = last := by
  refine achieves_pollPod ?_ ?_ finds
  · rintro state (starting | rfl)
    · rcases state with (_ | reason) | _ | _ | _ | _ | _ <;>
        simp_all [PodState.IsStarting, readyVerdict]
    · rfl
  · rintro state rfl
    rfl

/-- A wait for a copying pod ends well if the looks find it started and then succeeded. -/
theorem achieves_waitPodCompleted
    (starts : scene.environment.FindsPod cluster pod pacing.pollInterval pacing.readinessLimit
      PodState.IsStarting PodState.HasStarted situation middle)
    (ends : scene.environment.FindsPod cluster pod pacing.pollInterval pacing.transferLimit
      PodState.IsCopying (· = .succeeded) middle last) :
    (waitPodCompleted pacing cluster pod).Achieves scene (·.situation = situation)
      fun _ stage => stage.situation = last := by
  refine Plan.Achieves.bind (achieves_pollPod ?_ ?_ starts) fun _ => achieves_pollPod ?_ ?_ ends
  · intro state starting
    rcases state with (_ | reason) | _ | _ | _ | _ | _ <;>
      simp_all [PodState.IsStarting, startedVerdict]
  · intro state started
    cases state <;> simp_all [PodState.HasStarted, startedVerdict]
  · intro state copying
    cases state <;> simp_all [PodState.IsCopying, completedVerdict]
  · rintro state rfl
    rfl

theorem achieves_waitServiceIngress
    (finds : scene.environment.Finds cluster (.serviceIngress service.ns service.name)
      pacing.pollInterval (Bears (· = none)) (Shows (· ≠ none))
      (pacing.readinessLimit / pacing.pollInterval) situation last) :
    (waitServiceIngress pacing cluster service).Achieves scene (·.situation = situation)
      fun _ stage => stage.situation = last := by
  have judges : Judges (@id (Except Failure (Call.serviceIngress service.ns service.name).Answer))
      (Bears (· = none)) (Shows (· ≠ none)) := by
    constructor
    · intro answer borne
      rcases answer with failure | address
      · exact .excused borne
      · rw [show address = none from borne]
        exact .answered none
    · intro answer shown
      rcases answer with failure | _ | host
      · cases shown
      · exact absurd rfl shown
      · exact ⟨host, .answered _⟩
  exact achieves_pollUntil judges finds

end Waits

/-! ## Favourable conditions -/

/-- Whoever reads a volume in a record is answered in one way. -/
structure VolumeAnswers.Stand (answers : VolumeAnswers) (volume : VolumeLocator)
    (record : List Exchange) : Prop where
  claim : ∀ {result},
    ⟨answers.cluster, .claim volume.ns volume.name, result⟩ ∈ record → result = .ok answers.claim
  users : ∀ {result},
    ⟨answers.cluster, .claimUsers volume.ns volume.name, result⟩ ∈ record →
      result = .ok answers.users

/-- The conditions of an attempt are favourable throughout a record. -/
structure AttemptContext.Favoured {σ : Type} (context : AttemptContext) (scene : Scene σ)
    (source destination : VolumeAnswers) : Prop where
  sourceFound : context.sourceCluster = .ok source.cluster
  destinationFound : context.destinationCluster = .ok destination.cluster
  sourceStands : source.Stand context.request.source scene.record
  destinationStands : destination.Stand context.request.destination scene.record
  accepted :
    mountViolation context.request (.ofUsers source.users) (.ofUsers destination.users) = none
  granted : ∀ {cluster : ClusterHandle} {object : ClusterObject} {result},
    ⟨cluster, .create object, result⟩ ∈ scene.record → ∃ resource, result = .ok resource
  punctual : context.Punctual scene

/-- One pod can mount both volumes of a request, as they are answered. -/
def CoMountable (request : Request) (source destination : VolumeAnswers) : Prop :=
  request.source.SameNamespace request.destination ∧
    ∃ node, coMountNode source.probe destination.probe = .ok node

section Favoured

variable {σ : Type} {scene : Scene σ} {context : AttemptContext}
  {source destination : VolumeAnswers} {before : Stage σ → Prop}

/-- What is probed of a volume is what its answers say. -/
theorem achieves_probeVolume {answers : VolumeAnswers} {volume : VolumeLocator}
    (stand : answers.Stand volume scene.record) :
    (probeVolume answers.cluster volume).Achieves scene before fun probe _ =>
      probe = answers.probe := by
  have status : (mountStatusOf answers.cluster volume).Achieves scene (fun _ => True)
      fun status _ => status = .ofUsers answers.users :=
    (Plan.achieves_ask_known stand.users).bind_known (Plan.achieves_done_known _)
  exact (Plan.achieves_ask_known stand.claim).bind_known
    (status.bind_known (Plan.achieves_done_known _))

theorem achieves_probeVolumes (favoured : context.Favoured scene source destination) :
    (probeVolumes context).Achieves scene before fun volumes _ =>
      volumes = { source := source.probe, destination := destination.probe } := by
  refine (Plan.achieves_ofExcept favoured.sourceFound).bind_known ?_
  refine (Plan.achieves_ofExcept favoured.destinationFound).bind_known ?_
  refine (achieves_probeVolume favoured.sourceStands).bind_known ?_
  refine (achieves_probeVolume favoured.destinationStands).bind_known ?_
  exact Plan.achieves_done_known _

/-- Volumes that are free are found free. -/
theorem achieves_checkedProbe (favoured : context.Favoured scene source destination) :
    (checkedProbe context).Achieves scene before fun answer _ =>
      answer = .ok { source := source.probe, destination := destination.probe } := by
  refine (achieves_probeVolumes favoured).bind_known ?_
  dsimp only
  rw [show mountViolation context.request source.probe.mount destination.probe.mount = none from
    favoured.accepted]
  exact Plan.achieves_done_known _

/-! ## Evaluations -/

theorem achieves_answer {answer : Applicability} {fact : Prop}
    (tells : answer = .applicable ↔ fact) :
    (Plan.done answer).Achieves scene before fun found _ => found = .applicable ↔ fact := by
  refine (Plan.achieves_done_known answer).weaken ?_
  rintro found _ rfl
  exact tells

theorem achieves_applicableIfFree (favoured : context.Favoured scene source destination) :
    (applicableIfFree context).Achieves scene before fun answer _ => answer = .applicable :=
  (achieves_checkedProbe favoured).bind_known (Plan.achieves_done_known _)

/-- In favourable clusters one pod is used exactly if it can mount both volumes. -/
theorem MountBoth.achieves_applicable (favoured : context.Favoured scene source destination) :
    (applicable context).Achieves scene before fun answer _ =>
      answer = .applicable ↔ CoMountable context.request source destination := by
  unfold applicable
  dsimp only
  split
  next apart =>
    apply achieves_answer
    simp [CoMountable, VolumeLocator.SameNamespace, apart]
  next together =>
    split
    next apart =>
      apply achieves_answer
      simp [CoMountable, apart]
    next within =>
      rw [not_not] at within
      refine (achieves_checkedProbe favoured).bind_known ?_
      dsimp only
      cases chosen : coMountNode source.probe destination.probe with
      | error conflict =>
          apply achieves_answer
          simp [CoMountable, chosen]
      | ok node =>
          apply achieves_answer
          simp [CoMountable, within, chosen]

/-- In favourable clusters a relay without load balancer is used exactly within one cluster. -/
theorem achieves_applicable_inCluster (favoured : context.Favoured scene source destination) :
    (rsyncInCluster.applicable context).Achieves scene before fun answer _ =>
      answer = .applicable ↔ context.request.source.SameCluster context.request.destination := by
  dsimp only [rsyncInCluster]
  split
  next together =>
    refine (achieves_applicableIfFree favoured).weaken ?_
    rintro answer _ rfl
    simp [together]
  next apart =>
    apply achieves_answer
    simp [apart]

/-! ## Executions -/

theorem Provisioning.JustCreated.fresh {cluster : ClusterHandle} {object : ClusterObject}
    {resource : ResourceRef} {stage : Stage σ} {look : Call}
    (created : Provisioning.JustCreated before cluster object resource stage) :
    Fresh stage.made cluster object resource look := by
  rcases created with ⟨earlier, -, made⟩
  rw [made]
  exact ⟨earlier.made, [], rfl, by simp⟩

/-- A plan that does not look at an object leaves it fresh. -/
theorem keeps_fresh {α : Type} {plan : Plan α} {after : α → Stage σ → Prop}
    (cluster : ClusterHandle) (object : ClusterObject) (resource : ResourceRef) (look : Call)
    (achieves : plan.Achieves scene before after)
    (others : plan.Within fun call => call ≠ look) :
    plan.Achieves scene
      (fun stage => before stage ∧ Fresh stage.made cluster object resource look)
      fun value stage => after value stage ∧ Fresh stage.made cluster object resource look := by
  have keeps {made more : List Exchange} (fresh : Fresh made cluster object resource look)
      (calls : ∀ exchange ∈ more, decide (exchange.call ≠ look) = true) :
      Fresh (made ++ more) cluster object resource look := by
    apply fresh.append
    intro exchange exchange_mem
    exact of_decide_eq_true (calls exchange exchange_mem)
  exact achieves.frame (Fresh · cluster object resource look) others keeps

/-- A pod that copies in good time is waited for with success. -/
theorem achieves_waitCopier (punctual : context.Punctual scene) {component : Component}
    {pod : Pod} {cluster : ClusterHandle} {created : ResourceRef}
    (copies : AttemptPod context component pod) (other : component ≠ .sshd) :
    (waitPodCompleted context.pacing cluster created).Achieves scene
      (fun stage =>
        Fresh stage.made cluster (.pod pod) created (.podState created.ns created.name))
      fun _ _ => True := by
  apply Plan.achieves_of_stage
  intro stage passes fresh
  rcases punctual.copier passes copies other fresh with ⟨started, last, starts, ends⟩
  exact (achieves_waitPodCompleted starts ends).weaken fun _ _ _ => trivial

/-- A relay that gets ready in good time is waited for with success. -/
theorem achieves_waitRelay (punctual : context.Punctual scene) {pod : Pod}
    {cluster : ClusterHandle} {created : ResourceRef} (relays : AttemptPod context .sshd pod) :
    (waitPodReady context.pacing cluster created).Achieves scene
      (fun stage =>
        Fresh stage.made cluster (.pod pod) created (.podState created.ns created.name))
      fun _ _ => True := by
  apply Plan.achieves_of_stage
  intro stage passes fresh
  rcases punctual.relay passes relays fresh with ⟨last, finds⟩
  exact (achieves_waitPodReady finds).weaken fun _ _ _ => trivial

theorem Tunnel.achieves_relayHost (punctual : context.Punctual scene) (exposure : Exposure)
    {cluster : ClusterHandle} {created : ResourceRef} :
    (relayHost context cluster created exposure).Achieves scene
      (fun stage => Fresh stage.made cluster (.service (service context exposure)) created
        (.serviceIngress created.ns created.name))
      fun _ _ => True := by
  cases exposure with
  | clusterIp => exact (Plan.achieves_done _).weaken fun _ _ _ => trivial
  | loadBalancer =>
      apply Plan.achieves_of_stage
      intro stage passes fresh
      rcases punctual.service passes fresh with ⟨last, finds⟩
      exact (achieves_waitServiceIngress finds).weaken fun _ _ _ => trivial

open Provisioning

/-- In favourable clusters a transfer in one pod ends well. -/
theorem MountBoth.achieves_transfer (favoured : context.Favoured scene source destination)
    (mountable : CoMountable context.request source destination) :
    (transfer context).Achieves scene before fun _ _ => True := by
  rcases mountable with ⟨-, node, chosen⟩
  have chooses : (chooseNode context).Achieves scene (fun _ => True) fun found _ =>
      found = node := by
    refine (achieves_checkedProbe favoured).bind_known ?_
    dsimp only
    rw [chosen]
    exact Plan.achieves_done_known node
  refine (achieves_ofExcept favoured.sourceFound).bind_known ?_
  refine (achieves_lift chooses).bind_known ?_
  refine (achieves_create favoured.granted).bind fun created => ?_
  apply achieves_lift
  exact (achieves_waitCopier favoured.punctual (.mountBoth node) (by decide)).mono
    (fun _ created => created.fresh) fun _ _ ends => ends

/-- In favourable clusters a relay is opened. -/
theorem Tunnel.achieves_openRelay (favoured : context.Favoured scene source destination)
    (exposure : Exposure) (cluster : ClusterHandle) (node : Option String) :
    (openRelay context exposure cluster node).Achieves scene before fun _ _ => True := by
  refine (achieves_create favoured.granted).bind fun _ => ?_
  refine (achieves_create favoured.granted).bind fun relay => ?_
  refine (achieves_create favoured.granted).bind fun created => ?_
  -- looks at the relay are no looks at the service
  have waits := keeps_fresh cluster (.service (service context exposure)) created
    (.serviceIngress created.ns created.name)
    (achieves_waitRelay favoured.punctual (.relay node))
    (within_waitPodReady context.pacing cluster relay (by simp))
  refine Achieves.bind ((achieves_lift waits).mono ?_ fun _ _ ends => ends.2) fun _ =>
    achieves_lift (achieves_relayHost favoured.punctual exposure)
  intro stage serviced
  rcases serviced with ⟨earlier, relayed, made⟩
  rw [made]
  refine ⟨relayed.fresh.append ?_, earlier.made, [], rfl, by simp⟩
  simp

/-- In favourable clusters a transfer through a relay ends well. -/
theorem Tunnel.achieves_transfer (favoured : context.Favoured scene source destination)
    (exposure : Exposure) : (transfer exposure context).Achieves scene before fun _ _ => True := by
  have nodes : (probeNodes context).Achieves scene (fun _ => True) fun found _ =>
      found = (source.probe.mount.node, destination.probe.mount.node) :=
    (achieves_checkedProbe favoured).bind_known (Plan.achieves_done_known _)
  refine (achieves_ofExcept favoured.sourceFound).bind_known ?_
  refine (achieves_ofExcept favoured.destinationFound).bind_known ?_
  refine (achieves_lift nodes).bind_known ?_
  refine (achieves_openRelay favoured exposure _ _).bind fun host => ?_
  refine (achieves_create favoured.granted).bind fun _ => ?_
  refine (achieves_create favoured.granted).bind fun created => ?_
  apply achieves_lift
  exact (achieves_waitCopier favoured.punctual (.copier _ host) (by decide)).mono
    (fun _ created => created.fresh) fun _ _ ends => ends

theorem Transfers.achieves_execute {strategy : Strategy}
    {transfer : AttemptContext → Provisioning Unit} (transfers : Transfers strategy transfer)
    (achieves : (transfer context).Achieves scene before fun _ _ => True) :
    (strategy.execute context).Achieves scene before fun _ _ => True := by
  rw [transfers.execute_eq]
  exact achieves_withResources (transfers.accountable context) achieves

end Favoured

/-! ## The strategy that is called for -/

/-- The first strategy of this library that the places of the volumes allow, after those that they
do not. -/
inductive CalledFor (request : Request) (source destination : VolumeAnswers) :
    List Strategy → Strategy → Prop where
  | onePod (mountable : CoMountable request source destination) :
      CalledFor request source destination [] mountBoth
  | inCluster (together : request.source.SameCluster request.destination)
      (unmountable : ¬CoMountable request source destination) :
      CalledFor request source destination [mountBoth] rsyncInCluster
  | crossCluster (apart : ¬request.source.SameCluster request.destination) :
      CalledFor request source destination [mountBoth, rsyncInCluster] rsyncCrossCluster

/-- Some strategy is always called for. -/
theorem exists_calledFor (request : Request) (source destination : VolumeAnswers) :
    ∃ passed strategy, CalledFor request source destination passed strategy := by
  by_cases together : request.source.SameCluster request.destination
  · by_cases mountable : CoMountable request source destination
    · exact ⟨_, _, .onePod mountable⟩
    · exact ⟨_, _, .inCluster together mountable⟩
  · exact ⟨_, _, .crossCluster together⟩

namespace CalledFor

variable {σ : Type} {scene : Scene σ} {context : AttemptContext} {request : Request}
  {source destination : VolumeAnswers} {passed : List Strategy} {strategy : Strategy}

theorem builtin (calledFor : CalledFor request source destination passed strategy) :
    ∃ rest, StrategyRegistry.builtin.strategies = passed ++ strategy :: rest := by
  cases calledFor <;> exact ⟨_, rfl⟩

/-- In favourable clusters the strategies before the one that is called for decline. -/
theorem declines (calledFor : CalledFor context.request source destination passed strategy)
    (favoured : context.Favoured scene source destination) {other : Strategy}
    (other_mem : other ∈ passed) :
    (other.applicable context).Achieves scene (fun _ => True) fun answer _ =>
      answer ≠ .applicable := by
  have pod_declines (unmountable : ¬CoMountable context.request source destination) :
      (mountBoth.applicable context).Achieves scene (fun _ => True) fun answer _ =>
        answer ≠ .applicable := by
    refine (MountBoth.achieves_applicable favoured).weaken ?_
    intro answer _ tells applies
    exact unmountable (tells.mp applies)
  cases calledFor with
  | onePod => cases other_mem
  | inCluster together unmountable =>
      cases List.mem_singleton.mp other_mem
      exact pod_declines unmountable
  | crossCluster apart =>
      rcases List.mem_cons.mp other_mem with rfl | other_mem
      · exact pod_declines fun mountable => apart mountable.1.1
      · cases List.mem_singleton.mp other_mem
        refine (achieves_applicable_inCluster favoured).weaken ?_
        intro answer _ tells applies
        exact apart (tells.mp applies)

/-- In favourable clusters the strategy that is called for applies. -/
theorem applies (calledFor : CalledFor context.request source destination passed strategy)
    (favoured : context.Favoured scene source destination) :
    (strategy.applicable context).Achieves scene (fun _ => True) fun answer _ =>
      answer = .applicable := by
  cases calledFor with
  | onePod mountable =>
      exact (MountBoth.achieves_applicable favoured).weaken fun _ _ tells => tells.mpr mountable
  | inCluster together unmountable =>
      exact (achieves_applicable_inCluster favoured).weaken fun _ _ tells => tells.mpr together
  | crossCluster apart => exact achieves_applicableIfFree favoured

/-- In favourable clusters the strategy that is called for ends well. -/
theorem achieves_execute
    (calledFor : CalledFor context.request source destination passed strategy)
    (favoured : context.Favoured scene source destination) :
    (strategy.execute context).Achieves scene (fun _ => True) fun _ _ => True := by
  cases calledFor with
  | onePod mountable =>
      exact Transfers.mountBoth.achieves_execute (MountBoth.achieves_transfer favoured mountable)
  | inCluster together unmountable =>
      exact Transfers.inCluster.achieves_execute (Tunnel.achieves_transfer favoured .clusterIp)
  | crossCluster apart =>
      exact Transfers.crossCluster.achieves_execute
        (Tunnel.achieves_transfer favoured .loadBalancer)

end CalledFor

end VolumeMigration
