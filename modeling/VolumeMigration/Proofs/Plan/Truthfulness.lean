import VolumeMigration.Proofs.Plan.Sightings
import VolumeMigration.Proofs.Plan.Timing

/-!
# Why a wait for the end of a pod fails

A wait for the end of a pod fails in one of four ways, and the kind of its failure tells what its
reads have shown (`FailsTruthfully`). Each phase of the wait ends as `PodWait` says, by induction on
the time that remains; the two phases are then put together.
-/

namespace VolumeMigration

/-- Whether a state shows that the pod has started. -/
def PodState.isStarted : PodState → Bool
  | .running _ | .succeeded | .failed _ _ => true
  | .pending _ | .unknown | .gone => false

/-- The states of a pod that will not start. -/
inductive PodState.Stuck : PodState → Prop
  | gone : Stuck .gone
  | fatal {reason : String} (fatal : reason ∈ fatalWaitingReasons) : Stuck (.pending (some reason))

/-- A read of the state of a pod was answered with a state that has a property. -/
def TimedExchange.Shows (shown : PodState → Prop) (read : TimedExchange) : Prop :=
  read.exchange.Shows shown

/-- The last of some reads was answered with a state that has a property. -/
def LastShows (shown : PodState → Prop) (reads : List TimedExchange) : Prop :=
  ∃ before last, reads = before ++ [last] ∧ last.Shows shown

/-- None of some reads shows that the pod has started. -/
def Unstarted (reads : List TimedExchange) : Prop :=
  ∀ read ∈ reads, ¬ read.Shows (·.isStarted = true)

/-- The first of some reads that shows that the pod has started was made at a time. -/
def StartedAt (time : Duration) (reads : List TimedExchange) : Prop :=
  ∃ before first after, reads = before ++ first :: after ∧ Unstarted before ∧
    first.Shows (·.isStarted = true) ∧ first.time = time

/-- What the kind of a failure of a wait for the end of a pod tells about the reads of the wait. -/
structure FailsTruthfully {σ : Type} (pacing : Pacing) (pod : ResourceRef) (start final : World σ)
    (reads : List TimedExchange) (failure : Failure) : Prop where
  kinds : failure.kind ∈
    [.readinessTimeout, .provisioningFailed, .transferFailed, .cancelled]
  readinessTimeout : failure.kind = .readinessTimeout →
    Unstarted reads ∧ start.clock + pacing.readinessLimit ≤ final.clock
  provisioningFailed : failure.kind = .provisioningFailed →
    Unstarted reads ∧ LastShows PodState.Stuck reads
  transferFailed : failure.kind = .transferFailed → ∃ time, StartedAt time reads ∧
    ((∃ exitCode reason, LastShows (· = .failed exitCode reason) reads ∧
        failure = .transfer pod.name (describeExit exitCode reason)) ∨
      LastShows (· = .gone) reads ∨ time + pacing.transferLimit ≤ final.clock)
  cancelled : failure.kind = .cancelled → final.cancelled = true

/-- Whenever the state of a pod cannot be read, this is a failure of the cluster. -/
def Environment.TransientReads {σ : Type} (environment : Environment σ) (cluster : ClusterHandle)
    (pod : ResourceRef) : Prop :=
  ∀ situation failure,
    environment.answer cluster (.podState pod.ns pod.name) situation = .error failure →
      failure.kind = .cluster

@[simp]
theorem World.cancelled_cancel {σ : Type} (world : World σ) : world.cancel.cancelled = true := by
  cases cancelled : world.cancelled <;> simp [cancel, cancelled]

/-! ## Looks -/

/-- How a wait for a state of a pod ends in a world, by its reads: the last of them shows the state
or that it will not come, or the deadline has passed, or the token is cancelled. -/
inductive PodWait {σ : Type} (verdict : PodState → Verdict) (tooLate : Failure)
    (deadline : Duration) (final : World σ) : List TimedExchange → Except Failure Unit → Prop where
  | reached {before : List TimedExchange} {last : TimedExchange}
      (waited : ∀ read ∈ before, ¬ read.Shows (verdict · = .reached))
      (shows_last : last.Shows (verdict · = .reached)) (now : last.time = final.clock) :
      PodWait verdict tooLate deadline final (before ++ [last]) (.ok ())
  | hopeless {reads : List TimedExchange} {failure : Failure}
      (waited : ∀ read ∈ reads, ¬ read.Shows (verdict · = .reached))
      (shows_last : LastShows (verdict · = .hopeless failure) reads) :
      PodWait verdict tooLate deadline final reads (.error failure)
  | expired {reads : List TimedExchange}
      (waited : ∀ read ∈ reads, ¬ read.Shows (verdict · = .reached))
      (late : deadline = final.clock) :
      PodWait verdict tooLate deadline final reads (.error tooLate)
  | cancelled {reads : List TimedExchange}
      (waited : ∀ read ∈ reads, ¬ read.Shows (verdict · = .reached))
      (token : final.cancelled = true) :
      PodWait verdict tooLate deadline final reads (.error .cancelled)

section Looks

variable {σ : Type} {environment : Environment σ} {cluster : ClusterHandle} {pod : ResourceRef}
  {verdict : PodState → Verdict} {world : World σ}

/-- The read of the state of a pod in a world. -/
def readIn (environment : Environment σ) (cluster : ClusterHandle) (pod : ResourceRef)
    (world : World σ) : TimedExchange :=
  ⟨world.clock, environment.exchange cluster (.podState pod.ns pod.name) world.situation⟩

/-- A look shows what the clusters answer in its situation. -/
theorem shows_readIn {shown : PodState → Prop} :
    (readIn environment cluster pod world).Shows shown ↔
      ∃ state, environment.answer cluster (.podState pod.ns pod.name) world.situation =
        .ok state ∧ shown state := by
  constructor
  · rintro ⟨_, _, _, state, read_eq, holds⟩
    injection read_eq with _ call_eq result_eq
    injection call_eq with ns_eq name_eq
    subst ns_eq name_eq
    exact ⟨state, result_eq, holds⟩
  · rintro ⟨state, answered, holds⟩
    refine ⟨cluster, pod.ns, pod.name, state, ?_, holds⟩
    rw [← answered]
    rfl

theorem Verdict.timedExchanges_toPlan (verdict : Verdict) :
    verdict.toPlan.timedExchanges environment world = [] := by
  cases verdict <;> rfl

theorem timedExchanges_lookAtPod :
    (lookAtPod cluster pod verdict).timedExchanges environment world =
      [readIn environment cluster pod world] := by
  change ((Plan.ask cluster (.podState pod.ns pod.name)).bind _).timedExchanges _ _ = _
  rw [Plan.timedExchanges_bind, Plan.timedExchanges_ask, Plan.run_ask]
  rcases world.ask environment cluster (.podState pod.ns pod.name) with ⟨failure | state, ended⟩
  · rfl
  · exact congrArg _ (verdict state).timedExchanges_toPlan

/-- What a look at a pod decides: it was reached what is waited for, or it will not be, or nothing
is decided yet. -/
inductive PodLook (environment : Environment σ) (cluster : ClusterHandle) (pod : ResourceRef)
    (verdict : PodState → Verdict) (world : World σ) : Option (Except Failure Unit) → Prop where
  | reached (shows_it : (readIn environment cluster pod world).Shows (verdict · = .reached)) :
      PodLook environment cluster pod verdict world (some (.ok ()))
  | hopeless {failure : Failure}
      (unreached : ¬ (readIn environment cluster pod world).Shows (verdict · = .reached))
      (shows_it : (readIn environment cluster pod world).Shows (verdict · = .hopeless failure)) :
      PodLook environment cluster pod verdict world (some (.error failure))
  | undecided
      (unreached : ¬ (readIn environment cluster pod world).Shows (verdict · = .reached)) :
      PodLook environment cluster pod verdict world none

/-- A look at a pod is judged by its verdict, and a failed one is passed over. -/
theorem podLook_of_run (world : World σ) (reads : environment.TransientReads cluster pod)
    (final : ∀ state failure, verdict state = .hopeless failure → failure.kind ≠ .cluster) :
    PodLook environment cluster pod verdict world
      (decision? (TimedLook.ofRun environment (lookAtPod cluster pod verdict) world).answer) := by
  have ran : (lookAtPod cluster pod verdict).run environment world = _ :=
    Plan.run_bind environment (Plan.ask cluster (.podState pod.ns pod.name))
      (fun state => (verdict state).toPlan) world
  rw [Plan.run_ask] at ran
  have answer_eq : environment.answer cluster (.podState pod.ns pod.name) world.situation =
    (world.ask environment cluster (.podState pod.ns pod.name)).1 := rfl
  rcases answered : world.ask environment cluster (.podState pod.ns pod.name) with
    ⟨failure | state, ended⟩
  · rw [answered] at ran answer_eq
    have passing := reads _ _ answer_eq
    have unshown : ¬ (readIn environment cluster pod world).Shows (verdict · = .reached) := by
      simp [shows_readIn, answer_eq]
    simp only [TimedLook.ofRun, ran, decision?, passing, if_true]
    exact .undecided unshown
  · rw [answered] at ran answer_eq
    have shows_iff : ∀ shown : PodState → Prop,
        (readIn environment cluster pod world).Shows shown ↔ shown state := by
      simp [shows_readIn, answer_eq]
    dsimp only at ran
    cases judged : verdict state with
    | reached =>
        rw [judged] at ran
        simp only [TimedLook.ofRun, ran]
        exact .reached ((shows_iff _).mpr judged)
    | waiting =>
        rw [judged] at ran
        simp only [TimedLook.ofRun, ran]
        exact .undecided (by simp [shows_iff, judged])
    | hopeless failure =>
        rw [judged] at ran
        simp only [TimedLook.ofRun, ran, Verdict.toPlan, Plan.run, decision?,
          final state failure judged, if_false]
        exact .hopeless (by simp [shows_iff, judged]) ((shows_iff _).mpr judged)

end Looks

/-! ## Phases -/

section Phases

variable {σ : Type} {environment : Environment σ} {cluster : ClusterHandle} {pod : ResourceRef}
  {verdict : PodState → Verdict} {tooLate : Failure} {world : World σ}

/-- A look that does not show what is waited for may come first. -/
theorem PodWait.cons {deadline : Duration} {final : World σ} {first : TimedExchange}
    {reads : List TimedExchange} {result : Except Failure Unit}
    (unreached : ¬ first.Shows (verdict · = .reached))
    (wait : PodWait verdict tooLate deadline final reads result) :
    PodWait verdict tooLate deadline final (first :: reads) result := by
  cases wait with
  | reached waited shows_last now =>
      rw [← List.cons_append]
      exact .reached (List.forall_mem_cons.mpr ⟨unreached, waited⟩) shows_last now
  | hopeless waited shows_last =>
      rcases shows_last with ⟨before, last, rfl, shown⟩
      exact .hopeless (List.forall_mem_cons.mpr ⟨unreached, waited⟩)
        ⟨first :: before, last, rfl, shown⟩
  | expired waited late => exact .expired (List.forall_mem_cons.mpr ⟨unreached, waited⟩) late
  | cancelled waited token => exact .cancelled (List.forall_mem_cons.mpr ⟨unreached, waited⟩) token

/-- The run of a plan in a world is a wait for a state of a pod until a deadline. -/
def Plan.WaitsForPod (environment : Environment σ) (verdict : PodState → Verdict)
    (tooLate : Failure) (deadline : Duration) (plan : Plan Unit) (world : World σ) : Prop :=
  PodWait verdict tooLate deadline (plan.run environment world).2
    (plan.timedExchanges environment world) (plan.run environment world).1

/-- A phase that goes on after a look ends as the rest of it does. -/
theorem waitsForPod_of_undecided {interval limit : Duration} (positive : 0 < interval)
    (uncancelled : world.cancelled = false)
    (undecided : decision?
      (TimedLook.ofRun environment (lookAtPod cluster pod verdict) world).answer = none)
    (unreached : ¬ (readIn environment cluster pod world).Shows (verdict · = .reached))
    (goesOn : ∀ after : World σ, interval ≤ limit →
      (pollUntil positive (limit - interval) tooLate (lookAtPod cluster pod verdict)).WaitsForPod
        environment verdict tooLate (after.clock + (limit - interval)) after) :
    (pollUntil positive limit tooLate (lookAtPod cluster pod verdict)).WaitsForPod environment
      verdict tooLate (world.clock + limit) world := by
  let timed := TimedLook.ofRun environment (lookAtPod cluster pod verdict) world
  have clock_eq : timed.settled.clock = world.clock :=
    TimedLook.clock_settled (spends_lookAtPod cluster pod verdict).instant world
  have waited : ∀ read ∈ [readIn environment cluster pod world],
      ¬ read.Shows (verdict · = .reached) := by
    simpa using unreached
  unfold Plan.WaitsForPod at goesOn ⊢
  rw [run_pollUntil_of_undecided positive uncancelled undecided,
    timedExchanges_pollUntil_of_undecided positive uncancelled undecided,
    timedExchanges_lookAtPod]
  rcases timed.settled.pause_cases environment interval limit with
    ⟨moment, cancels, before_look, in_time⟩ | ⟨again, later⟩ | ⟨less, later⟩
  · rw [run_goOn_interrupted cancels before_look in_time,
      timedExchanges_goOn_interrupted cancels before_look in_time]
    exact .cancelled waited (World.cancelled_cancel _)
  · rw [run_goOn_again again later, timedExchanges_goOn_again again later]
    have deadline_eq : timed.settled.clock + interval + (limit - interval) =
        world.clock + limit := by
      rw [clock_eq, Nat.add_assoc, Nat.add_sub_of_le again]
    have rest := goesOn { timed.settled with clock := timed.settled.clock + interval } again
    rw [deadline_eq] at rest
    exact rest.cons unreached
  · rw [run_goOn_expired less later, timedExchanges_goOn_expired less later]
    exact .expired waited (congrArg (· + limit) clock_eq.symm)

/-- Waiting for a pod ends as its last look says, or when the limit is over. -/
theorem waitsForPod_pollUntil {interval limit : Duration} (positive : 0 < interval)
    (reads : environment.TransientReads cluster pod)
    (final : ∀ state failure, verdict state = .hopeless failure → failure.kind ≠ .cluster) :
    (pollUntil positive limit tooLate (lookAtPod cluster pod verdict)).WaitsForPod environment
      verdict tooLate (world.clock + limit) world := by
  -- the induction is on the time that remains: after a pause the wait is one with a shorter limit
  induction limit using Duration.induct positive generalizing world with
  | step limit ih =>
      cases token : world.cancelled with
      | true =>
          unfold Plan.WaitsForPod
          rw [run_pollUntil_of_cancelled positive token,
            timedExchanges_pollUntil_of_cancelled positive token]
          exact .cancelled (by simp) token
      | false =>
          generalize decided : decision? (TimedLook.ofRun environment
            (lookAtPod cluster pod verdict) world).answer = decision
          have look := podLook_of_run world reads final
          rw [decided] at look
          cases look with
          | reached shows_it =>
              unfold Plan.WaitsForPod
              rw [run_pollUntil_of_decided positive token decided,
                timedExchanges_pollUntil_of_decided positive token decided,
                timedExchanges_lookAtPod]
              have instant : ((lookAtPod cluster pod verdict).run environment world).2.clock =
                world.clock := (spends_lookAtPod cluster pod verdict).instant world
              rw [← List.nil_append [_]]
              exact .reached (by simp) shows_it instant.symm
          | hopeless unreached shows_it =>
              unfold Plan.WaitsForPod
              rw [run_pollUntil_of_decided positive token decided,
                timedExchanges_pollUntil_of_decided positive token decided,
                timedExchanges_lookAtPod]
              exact .hopeless (by simpa using unreached) ⟨[], _, rfl, shows_it⟩
          | undecided unreached =>
              apply waitsForPod_of_undecided positive token decided unreached
              intro after again
              exact ih again

end Phases

/-! ## Both phases -/

section BothPhases

variable {σ : Type} {name : String} {state : PodState} {failure : Failure}
  {starting transferring : List TimedExchange} {deadline : Duration}

theorem startedVerdict_eq_reached_iff :
    startedVerdict name state = .reached ↔ state.isStarted = true := by
  rcases state with (_ | reason) | _ | _ | _ | _ | _ <;>
    simp [startedVerdict, PodState.isStarted]
  split <;> simp

/-- Waiting for a start fails at once only for a pod that is stuck. -/
theorem startedVerdict_hopeless (judged : startedVerdict name state = .hopeless failure) :
    state.Stuck ∧ failure.kind = .provisioningFailed := by
  unfold startedVerdict at judged
  split at judged
  · split at judged
    next fatal =>
      cases judged
      exact ⟨.fatal fatal, rfl⟩
    · cases judged
  · cases judged
  · cases judged
  · cases judged
    exact ⟨.gone, rfl⟩
  all_goals cases judged

/-- Waiting for an end fails at once only for a pod that has failed or is gone. -/
theorem completedVerdict_hopeless (judged : completedVerdict name state = .hopeless failure) :
    (∃ exitCode reason, state = .failed exitCode reason ∧
        failure = .transfer name (describeExit exitCode reason)) ∨
      state = .gone ∧ failure.kind = .transferFailed := by
  rcases state with _ | _ | _ | ⟨exitCode, reason⟩ | _ | _ <;> simp [completedVerdict] at judged
  · exact .inl ⟨exitCode, reason, rfl, judged.symm⟩
  · subst judged
    exact .inr ⟨rfl, rfl⟩

theorem TimedExchange.Shows.mono {shown more : PodState → Prop} {read : TimedExchange}
    (shows_it : read.Shows shown) (implies : ∀ state, shown state → more state) :
    read.Shows more := by
  rcases shows_it with ⟨cluster, ns, pod, state, read_eq, holds⟩
  exact ⟨cluster, ns, pod, state, read_eq, implies state holds⟩

theorem LastShows.mono {shown more : PodState → Prop} {reads : List TimedExchange}
    (shows_last : LastShows shown reads) (implies : ∀ state, shown state → more state) :
    LastShows more reads := by
  rcases shows_last with ⟨before, last, parted, shows_it⟩
  exact ⟨before, last, parted, shows_it.mono implies⟩

theorem LastShows.append_left {shown : PodState → Prop}
    (shows_last : LastShows shown transferring) : LastShows shown (starting ++ transferring) := by
  rcases shows_last with ⟨before, last, rfl, shows_it⟩
  exact ⟨starting ++ before, last, (List.append_assoc _ _ _).symm, shows_it⟩

theorem StartedAt.append_right {time : Duration} (started : StartedAt time starting) :
    StartedAt time (starting ++ transferring) := by
  rcases started with ⟨before, first, after, rfl, unstarted, shows_it, made⟩
  refine ⟨before, first, after ++ transferring, ?_, unstarted, shows_it, made⟩
  rw [List.append_assoc, List.cons_append]

variable {pacing : Pacing} {pod : ResourceRef} {start final : World σ}

/-- A first phase that ends well saw the start at its last look. -/
theorem startedAt_of_wait {tooLate : Failure} {deadline : Duration} {result : Unit}
    (wait : PodWait (startedVerdict pod.name) tooLate deadline final starting (.ok result)) :
    StartedAt final.clock starting := by
  cases wait with
  | @reached before last waited shows_last now =>
      simp only [startedVerdict_eq_reached_iff] at waited shows_last
      exact ⟨before, last, [], rfl, waited, shows_last, now⟩

/-- A wait that fails while the pod starts. -/
theorem failsTruthfully_of_unstarted
    (wait : PodWait (startedVerdict pod.name) (.notReady pod.text pacing.readinessLimit)
      (start.clock + pacing.readinessLimit) final starting (.error failure)) :
    FailsTruthfully pacing pod start final starting failure := by
  have unstarted : Unstarted starting := by
    intro read read_mem
    cases wait with
    | hopeless waited | expired waited | cancelled waited =>
        simpa [startedVerdict_eq_reached_iff] using waited read read_mem
  cases wait with
  | hopeless waited shows_last =>
      have stuck : LastShows PodState.Stuck starting :=
        shows_last.mono fun _ judged => (startedVerdict_hopeless judged).1
      have kind : failure.kind = .provisioningFailed := by
        rcases shows_last with ⟨_, _, _, _, _, _, state, _, judged⟩
        exact (startedVerdict_hopeless judged).2
      constructor <;> simp [kind]
      exact ⟨unstarted, stuck⟩
  | expired waited late =>
      constructor <;> simp [Failure.kind]
      exact ⟨unstarted, Nat.le_of_eq late⟩
  | cancelled waited token =>
      constructor <;> simp [Failure.kind]
      exact token

/-- A wait that fails after the pod has started. -/
theorem failsTruthfully_of_started {time : Duration} {reason : String}
    (started : StartedAt time starting)
    (wait : PodWait (completedVerdict pod.name) (.transfer pod.name reason)
      (time + pacing.transferLimit) final transferring (.error failure)) :
    FailsTruthfully pacing pod start final (starting ++ transferring) failure := by
  cases wait with
  | hopeless waited shows_last =>
      rcases shows_last with ⟨before, last, rfl, _, _, _, state, read_eq, judged⟩
      have shows_state : LastShows (· = state) (starting ++ (before ++ [last])) :=
        LastShows.append_left ⟨before, last, rfl, _, _, _, state, read_eq, rfl⟩
      rcases completedVerdict_hopeless judged with ⟨exitCode, reason, rfl, rfl⟩ | ⟨rfl, kind⟩
      · constructor <;> simp [Failure.kind]
        exact ⟨time, started.append_right, .inl ⟨exitCode, reason, shows_state, rfl⟩⟩
      · constructor <;> simp [kind]
        exact ⟨time, started.append_right, .inr (.inl shows_state)⟩
  | expired waited late =>
      constructor <;> simp [Failure.kind]
      exact ⟨time, started.append_right, .inr (.inr (Nat.le_of_eq late))⟩
  | cancelled waited token =>
      constructor <;> simp [Failure.kind]
      exact token

end BothPhases

section Runs

variable {σ : Type} {environment : Environment σ} {pacing : Pacing} {cluster : ClusterHandle}
  {pod : ResourceRef}

/-- The first phase waits for a start, as long as an object may take to get ready. -/
theorem waitsForPod_waitPodStarted (pacing : Pacing)
    (reads : environment.TransientReads cluster pod) (world : World σ) :
    (waitPodStarted pacing cluster pod).WaitsForPod environment (startedVerdict pod.name)
      (.notReady pod.text pacing.readinessLimit) (world.clock + pacing.readinessLimit) world := by
  apply waitsForPod_pollUntil pacing.pollInterval_pos reads
  intro state failure judged
  simp [(startedVerdict_hopeless judged).2]

/-- The second phase waits for success, as long as a transfer may take. -/
theorem waitsForPod_waitPodSucceeded (pacing : Pacing)
    (reads : environment.TransientReads cluster pod) (world : World σ) :
    (waitPodSucceeded pacing cluster pod).WaitsForPod environment (completedVerdict pod.name)
      (.transfer pod.name ("did not finish within " ++ Duration.text pacing.transferLimit))
      (world.clock + pacing.transferLimit) world := by
  apply waitsForPod_pollUntil pacing.pollInterval_pos reads
  intro state failure judged
  rcases completedVerdict_hopeless judged with ⟨_, _, -, rfl⟩ | ⟨-, kind⟩
  · simp [Failure.kind]
  · simp [kind]

/-- All that a wait for the end of a pod does to a cluster is to read its state. -/
theorem call_of_waitPodCompleted (world : World σ) :
    ∀ read ∈ (waitPodCompleted pacing cluster pod).timedExchanges environment world,
      read.exchange.call = .podState pod.ns pod.name := by
  intro read read_mem
  let isRead (call : Call) : Bool := call = .podState pod.ns pod.name
  rcases Plan.run_course environment (waitPodCompleted pacing cluster pod) world with
    ⟨trace, _, course, follows, -⟩
  have within : (waitPodCompleted pacing cluster pod).Within isRead :=
    within_waitPodCompleted pacing cluster pod (by simp [isRead])
  have exchange_mem : read.exchange ∈ exchanges trace := by
    rw [← Plan.map_exchange_timedExchanges follows]
    exact List.mem_map_of_mem read_mem
  simpa [isRead] using (course.within within).2 read.exchange exchange_mem

/-- The kind of the failure of a wait for the end of a pod is true to what its reads showed, and it
does nothing but read. -/
theorem run_waitPodCompleted_failsTruthfully (world : World σ)
    (reads : environment.TransientReads cluster pod) {failure : Failure}
    (failed : ((waitPodCompleted pacing cluster pod).run environment world).1 = .error failure) :
    let made := (waitPodCompleted pacing cluster pod).timedExchanges environment world
    (∀ read ∈ made, read.exchange.call = .podState pod.ns pod.name) ∧
      FailsTruthfully pacing pod world
        ((waitPodCompleted pacing cluster pod).run environment world).2 made failure := by
  refine ⟨call_of_waitPodCompleted world, ?_⟩
  have began := waitsForPod_waitPodStarted pacing reads world
  have ran : (waitPodCompleted pacing cluster pod).run environment world = _ :=
    Plan.run_bind environment (waitPodStarted pacing cluster pod)
      (fun _ => waitPodSucceeded pacing cluster pod) world
  have read : (waitPodCompleted pacing cluster pod).timedExchanges environment world = _ :=
    Plan.timedExchanges_bind (waitPodStarted pacing cluster pod)
      (fun _ => waitPodSucceeded pacing cluster pod) world
  rw [ran] at failed ⊢
  rw [read]
  unfold Plan.WaitsForPod at began
  rcases first : (waitPodStarted pacing cluster pod).run environment world with
    ⟨early | value, middle⟩
  · rw [first] at began failed
    cases failed
    rw [List.append_nil]
    exact failsTruthfully_of_unstarted began
  · rw [first] at began failed
    have ended := waitsForPod_waitPodSucceeded pacing reads middle
    unfold Plan.WaitsForPod at ended
    rw [failed] at ended
    exact failsTruthfully_of_started (startedAt_of_wait began) ended

end Runs

/-- A cluster with a pod that is pending at first, runs, and has failed at last; in between it
cannot be read. -/
def Environment.faltering : Environment Unit :=
  { respond := fun _ call clock state =>
      match call, clock with
      | .podState _ _, 0 => ({ result := .ok (.pending none), cancels := false }, state)
      | .podState _ _, 2 => ({ result := .ok (.running true), cancels := false }, state)
      | .podState _ _, 4 =>
          ({ result := .ok (.failed (some 23) (some "Error")), cancels := false }, state)
      | _, _ => ({ result := .error (.api .unreachable), cancels := false }, state)
    cancelTime := none }

/-- The pod is seen started at the third look; its failure tells how it ended. -/
theorem run_waitPodCompleted_failsTruthfully_faltering :
    let pacing : Pacing :=
      { Pacing.standard with
        pollInterval := 1
        pollInterval_pos := Nat.one_pos
        readinessLimit := 3
        transferLimit := 5 }
    let pod : ResourceRef := { kind := .pod, ns := "apps", name := "rsync" }
    let wait := waitPodCompleted pacing ⟨0⟩ pod
    let failure := Failure.transfer "rsync" "exit code 23 (Error)"
    Environment.faltering.TransientReads ⟨0⟩ pod ∧
      (wait.run .faltering (World.start ())).1 = .error failure ∧
      FailsTruthfully pacing pod (World.start ()) (wait.run .faltering (World.start ())).2
        (wait.timedExchanges .faltering (World.start ())) failure := by
  have reads : Environment.faltering.TransientReads ⟨0⟩
      { kind := .pod, ns := "apps", name := "rsync" } := by
    rintro ⟨clock, ⟨⟩⟩ failure answered
    rcases clock with _ | _ | _ | _ | _ | clock <;> cases answered <;> rfl
  refine ⟨reads, ?_, ?_⟩
  · decide +kernel
  · exact (run_waitPodCompleted_failsTruthfully (World.start ()) reads
      (by decide +kernel)).2

end VolumeMigration
