import VolumeMigration.Proofs.Plan.Looks

/-!
# Success as a wait sees it

A wait for the end of a pod reads its state in two phases, and each phase reads anew. `HeedsSuccess`
says what becomes of a read that shows success: in the second phase it ends the wait well, but in
the first it only ends that phase, and the wait then depends on what the pod shows next.
-/

namespace VolumeMigration

/-- A call read the state of a pod and was answered with a state that has a property. -/
def Exchange.Shows (shown : PodState → Prop) (exchange : Exchange) : Prop :=
  ∃ cluster ns name state, exchange = ⟨cluster, .podState ns name, .ok state⟩ ∧ shown state

/-- The reads of one phase: it ends well with the first of them that shows what it waits for. -/
inductive Awaits (shown : PodState → Prop) : List Exchange → Except Failure Unit → Prop where
  | seen {looks : List Exchange} {last : Exchange}
      (before : ∀ read ∈ looks, ¬ read.Shows shown) (shows_last : last.Shows shown) :
      Awaits shown (looks ++ [last]) (.ok ())
  | unseen {looks : List Exchange} {failure : Failure}
      (never : ∀ read ∈ looks, ¬ read.Shows shown) :
      Awaits shown looks (.error failure)

/-- What a wait for the end of a pod makes of the success that its reads show, those while the pod
starts and those of the transfer. -/
structure HeedsSuccess (starting transferring : List Exchange) (result : Except Failure Unit) :
    Prop where
  decided : result = .ok () ↔ ∃ read ∈ transferring, read.Shows (· = .succeeded)
  last : ∀ before read after, transferring = before ++ read :: after →
    read.Shows (· = .succeeded) → after = []
  started : ∀ before read after, starting = before ++ read :: after →
    read.Shows (· = .succeeded) →
      after = [] ∧ (transferring ≠ [] ∨ result = .error .cancelled)

section Awaits

variable {shown : PodState → Prop} {made : List Exchange} {result : Except Failure Unit}

/-- Looks that show nothing may come first. -/
theorem Awaits.append {looks : List Exchange} (awaits : Awaits shown made result)
    (before : ∀ read ∈ looks, ¬ read.Shows shown) : Awaits shown (looks ++ made) result := by
  cases awaits with
  | seen unshown shows_last =>
      rw [← List.append_assoc]
      apply Awaits.seen _ shows_last
      rw [List.forall_mem_append]
      exact ⟨before, unshown⟩
  | unseen never =>
      apply Awaits.unseen
      rw [List.forall_mem_append]
      exact ⟨before, never⟩

/-- Waiting succeeds exactly if a look shows what it waits for. -/
theorem Awaits.ok_iff (awaits : Awaits shown made result) :
    result = .ok () ↔ ∃ read ∈ made, read.Shows shown := by
  cases awaits with
  | seen before shows_last => simp [shows_last]
  | unseen never => simpa using never

/-- Nothing is read after what the phase waits for. -/
theorem Awaits.last (awaits : Awaits shown made result) {before after : List Exchange}
    {read : Exchange} (parted : made = before ++ read :: after) (shows_read : read.Shows shown) :
    after = [] := by
  cases awaits with
  | @seen looks last unshown shows_last =>
      rcases List.eq_nil_or_concat after with rfl | ⟨rest, final, rfl⟩
      · rfl
      · have same : looks ++ [last] = (before ++ read :: rest) ++ [final] := by simpa using parted
        have looks_eq := (List.append_inj' same rfl).1
        exact absurd shows_read (unshown read (by simp [looks_eq]))
  | unseen never => exact absurd shows_read (never read (by simp [parted]))

end Awaits

/-! ## The looks of a phase -/

section Looks

variable {cluster : ClusterHandle} {pod : ResourceRef} {verdict : PodState → Verdict}
  {cancelled : Bool} {trace : List Occurrence} {leftovers : List String}

/-- A look at a pod reads its state once, and answers just when that is an awaited one. -/
theorem course_lookAtPod_iff {outcome : Except Failure (Option Unit)}
    (course : (lookAtPod cluster pod verdict).Course cancelled trace leftovers outcome) :
    ∃ read, exchanges trace = [read] ∧
      (outcome = .ok (some ()) ↔ read.Shows (verdict · = .reached)) := by
  rcases course.of_bind with ⟨failure, rfl, asked⟩ |
    ⟨state, first, rest, _, _, rfl, -, asked, judged⟩
  · refine ⟨_, asked.of_ask.2.exchanges, ?_⟩
    constructor
    · intro impossible
      cases impossible
    · rintro ⟨_, _, _, _, impossible, -⟩
      cases impossible
  · refine ⟨⟨cluster, .podState pod.ns pod.name, .ok state⟩, ?_, ?_⟩
    · have silent : rest = [] := by
        cases judgement : verdict state <;> rw [judgement] at judged <;> cases judged <;> rfl
      rw [silent, List.append_nil]
      exact asked.of_ask.2.exchanges
    · have outcome_iff : outcome = .ok (some ()) ↔ verdict state = .reached := by
        cases judgement : verdict state <;> rw [judgement] at judged <;> cases judged <;> simp
      rw [outcome_iff]
      constructor
      · intro reached
        exact ⟨_, _, _, state, rfl, reached⟩
      · rintro ⟨_, _, _, _, ⟨⟩, reached⟩
        exact reached

theorem Looking.awaits {outcome : Except Failure (Option Unit)}
    (looking : Looking (lookAtPod cluster pod verdict) cancelled trace outcome) :
    (outcome = .ok (some ()) → Awaits (verdict · = .reached) (exchanges trace) (.ok ())) ∧
      (outcome ≠ .ok (some ()) →
        ∀ read ∈ exchanges trace, ¬ read.Shows (verdict · = .reached)) := by
  cases looking with
  | cancelled => simp
  | answered looked =>
      rcases course_lookAtPod_iff looked with ⟨read, read_eq, answers⟩
      rw [read_eq]
      constructor
      · intro answered
        have unlooked : ∀ look ∈ ([] : List Exchange), ¬ look.Shows (verdict · = .reached) := by
          simp
        exact .seen unlooked (answers.mp answered)
      · intro unanswered
        simpa [← answers] using unanswered
  | @excused trace _ _ entry looked kind =>
      rcases course_lookAtPod_iff looked with ⟨read, read_eq, answers⟩
      have warned : exchanges (trace ++ [.logged entry]) = [read] := by
        rw [exchanges_append, read_eq]
        rfl
      simpa [warned] using answers
  | failed looked =>
      rcases course_lookAtPod_iff looked with ⟨read, read_eq, answers⟩
      simpa [read_eq] using answers

/-- The looks of a wait show what it waits for at the end or never. -/
theorem Polling.awaits {tooLate : Failure} {outcome : Except Failure Unit}
    (polling : Polling (lookAtPod cluster pod verdict) tooLate cancelled trace outcome) :
    Awaits (verdict · = .reached) (exchanges trace) outcome := by
  induction polling with
  | failed looking => exact .unseen (looking.awaits.2 (by simp))
  | answered looking => exact looking.awaits.1 rfl
  | interrupted looking pausing _ =>
      apply Awaits.unseen
      rcases pausing with rfl | rfl
      · simpa using looking.awaits.2 (by simp)
      · simpa [exchanges, Occurrence.exchange?] using looking.awaits.2 (by simp)
  | tooLate looking => exact .unseen (looking.awaits.2 (by simp))
  | again looking _ _ ih =>
      rw [exchanges_append]
      exact ih.append (looking.awaits.2 (by simp))

/-- A look at a pod reads its state, unless the token is cancelled before. -/
theorem Looking.exchanges_ne_nil {outcome : Except Failure (Option Unit)}
    (looking : Looking (lookAtPod cluster pod verdict) cancelled trace outcome) :
    exchanges trace ≠ [] ∨ outcome = .error .cancelled := by
  cases looking with
  | cancelled => exact .inr rfl
  | answered looked | excused looked | failed looked =>
      rcases course_lookAtPod_iff looked with ⟨read, read_eq, -⟩
      left
      simp [read_eq]

/-- A wait looks at least once, unless it is cancelled before. -/
theorem Polling.exchanges_ne_nil {tooLate : Failure} {outcome : Except Failure Unit}
    (polling : Polling (lookAtPod cluster pod verdict) tooLate cancelled trace outcome) :
    exchanges trace ≠ [] ∨ outcome = .error .cancelled := by
  cases polling with
  | failed looking =>
      rcases looking.exchanges_ne_nil with read | same
      · exact .inl read
      · cases same
        exact .inr rfl
  | interrupted => exact .inr rfl
  | answered looking | tooLate looking =>
      rcases looking.exchanges_ne_nil with read | impossible
      · exact .inl read
      · cases impossible
  | again looking _ _ =>
      rcases looking.exchanges_ne_nil with read | impossible
      · left
        simp [read]
      · cases impossible

end Looks

/-! ## Both phases -/

theorem completedVerdict_eq_reached_iff {name : String} {state : PodState} :
    completedVerdict name state = .reached ↔ state = .succeeded := by
  constructor
  · exact completedVerdict_reached
  · rintro rfl
    rfl

/-- A pod that has succeeded has started. -/
theorem shows_started {name : String} {read : Exchange} (success : read.Shows (· = .succeeded)) :
    read.Shows (startedVerdict name · = .reached) := by
  rcases success with ⟨cluster, ns, pod, _, rfl, rfl⟩
  exact ⟨cluster, ns, pod, .succeeded, rfl, rfl⟩

/-- Both phases wait for what they should, so success is heeded from when the second one looks. -/
theorem heedsSuccess_of_awaits {name : String} {starting transferring : List Exchange}
    {result : Except Failure Unit}
    (began : Awaits (startedVerdict name · = .reached) starting (.ok ()))
    (ended : Awaits (completedVerdict name · = .reached) transferring result)
    (looked : transferring ≠ [] ∨ result = .error .cancelled) :
    HeedsSuccess starting transferring result := by
  simp only [completedVerdict_eq_reached_iff] at ended
  constructor
  · exact ended.ok_iff
  · intro before read after parted success
    exact ended.last parted success
  · intro before read after parted success
    exact ⟨began.last parted (shows_started success), looked⟩

/-- A pod that was never seen started was never seen to succeed. -/
theorem heedsSuccess_of_notStarted {name : String} {starting : List Exchange} {failure : Failure}
    (failed : Awaits (startedVerdict name · = .reached) starting (.error failure)) :
    HeedsSuccess starting [] (.error failure) := by
  have unseen : ∀ read ∈ starting, ¬ read.Shows (· = .succeeded) := by
    intro read read_mem success
    have ok := failed.ok_iff.mpr ⟨read, read_mem, shows_started success⟩
    cases ok
  constructor
  · simp
  · simp
  · rintro before read after rfl success
    exact absurd success (unseen read (by simp))

variable {σ : Type}

/-- A wait for the end of a pod ends well just when a read of its second phase shows success, and
reads nothing after it. Success that a read of the first phase shows is only a reason to read
again. -/
theorem run_waitPodCompleted_heedsSuccess (environment : Environment σ) (world : World σ)
    (pacing : Pacing) (cluster : ClusterHandle) (pod : ResourceRef) :
    ∃ starting transferring,
      world.Follows ((waitPodStarted pacing cluster pod).run environment world).2 starting ∧
      ((waitPodStarted pacing cluster pod).run environment world).2.Follows
        ((waitPodCompleted pacing cluster pod).run environment world).2 transferring ∧
      HeedsSuccess (exchanges starting) (exchanges transferring)
        ((waitPodCompleted pacing cluster pod).run environment world).1 := by
  rcases Plan.run_course environment (waitPodStarted pacing cluster pod) world with
    ⟨starting, _, started, follows, -⟩
  have began := (course_pollUntil started).awaits
  have completed : (waitPodCompleted pacing cluster pod).run environment world = _ :=
    Plan.run_bind environment (waitPodStarted pacing cluster pod)
      (fun _ => waitPodSucceeded pacing cluster pod) world
  rw [completed]
  rcases ran : (waitPodStarted pacing cluster pod).run environment world with
    ⟨_ | ⟨⟨⟩⟩, middle⟩
  · rw [ran] at follows began
    exact ⟨starting, [], follows, .refl middle, heedsSuccess_of_notStarted began⟩
  · rw [ran] at follows began
    rcases Plan.run_course environment (waitPodSucceeded pacing cluster pod) middle with
      ⟨transferring, _, ended, followed, -⟩
    have polling := course_pollUntil ended
    exact ⟨starting, transferring, follows, followed,
      heedsSuccess_of_awaits began polling.awaits polling.exchanges_ne_nil⟩

/-- A cluster whose pod has succeeded when it is read first and is gone ever after. -/
def Environment.vanishing : Environment Bool :=
  { respond := fun _ call _ read =>
      match call with
      | .podState _ _ =>
          ({ result := .ok (if read then .gone else .succeeded), cancels := false }, true)
      | _ => ({ result := .error .cancelled, cancels := false }, read)
    cancelTime := none }

/-- The success that the first read shows is lost when the pod is removed before the second. -/
theorem waitPodCompleted_vanishing :
    let pod : ResourceRef := { kind := .pod, ns := "apps", name := "pv-migrate-x-rsync" }
    let wait := (waitPodCompleted .standard ⟨0⟩ pod).run .vanishing (World.start false)
    wait.1 = .error (.transfer "pv-migrate-x-rsync" "pod no longer exists") ∧
      exchanges wait.2.history.toList =
        [⟨⟨0⟩, .podState "apps" "pv-migrate-x-rsync", .ok PodState.succeeded⟩,
          ⟨⟨0⟩, .podState "apps" "pv-migrate-x-rsync", .ok PodState.gone⟩] ∧
      wait.2.cancelled = false := by
  decide +kernel

end VolumeMigration
