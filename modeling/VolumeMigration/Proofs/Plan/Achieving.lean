import VolumeMigration.Proofs.Plan.Resources
import VolumeMigration.Proofs.Plan.Situations

/-!
# What plans achieve

`Plan.Achieves` says that a plan ends well: from every stage with a property it ends with a value,
at a stage that goes with it, provided that it is not cancelled and that its exchanges are those of
a record. Such statements are put together as plans are, and a wait achieves what it waits for if
looking at its interval finds that (`achieves_pollUntil`).
-/

namespace VolumeMigration

/-- Clusters, the situation from which they are asked, and all that they are asked and answer. -/
structure Scene (σ : Type) where
  environment : Environment σ
  start : Situation σ
  record : List Exchange

namespace Scene

variable {σ : Type} (scene : Scene σ)

/-- A stage that the record passes, whatever time that takes. -/
structure Passes (stage : Stage σ) : Prop where
  reached : scene.environment.Reaches scene.start stage
  recorded : stage.made <+: scene.record

/-- A world that was reached from the start by some exchanges, without a cancellation. -/
structure Underway (world : World σ) (made : List Exchange) : Prop where
  running : world.cancelled = false
  reached : scene.environment.Reaches scene.start ⟨world.situation, made⟩

/-- The record goes on after some exchanges as something does in which nothing is cancelled. -/
structure Continues (made : List Exchange) (trace : List Occurrence) : Prop where
  uncancelled : .cancellation ∉ trace
  recorded : made ++ exchanges trace <+: scene.record

variable {scene} {made : List Exchange} {first second trace : List Occurrence}

theorem Continues.left (continues : scene.Continues made (first ++ second)) :
    scene.Continues made first := by
  rcases continues with ⟨uncancelled, recorded⟩
  rw [List.mem_append, not_or] at uncancelled
  rw [exchanges_append, ← List.append_assoc] at recorded
  exact ⟨uncancelled.1, (List.prefix_append _ _).trans recorded⟩

theorem Continues.right (continues : scene.Continues made (first ++ second)) :
    scene.Continues (made ++ exchanges first) second := by
  rcases continues with ⟨uncancelled, recorded⟩
  rw [List.mem_append, not_or] at uncancelled
  rw [exchanges_append, ← List.append_assoc] at recorded
  exact ⟨uncancelled.2, recorded⟩

/-- A stretch of a run can be cut where its plan goes on. -/
theorem Continues.parts {before middle after : World σ} (continues : scene.Continues made trace)
    (whole : before.Follows after trace) (starts : before.Follows middle first)
    (goes : middle.Follows after second) :
    scene.Continues made first ∧ scene.Continues (made ++ exchanges first) second := by
  have parted : first ++ second = trace := (starts.trans goes).since.symm.trans whole.since
  rw [← parted] at continues
  exact ⟨continues.left, continues.right⟩

theorem Continues.recorded_before (continues : scene.Continues made trace) :
    made <+: scene.record :=
  (List.prefix_append _ _).trans continues.recorded

theorem Continues.mem_record (continues : scene.Continues made trace) {exchange : Exchange}
    (exchange_mem : exchange ∈ exchanges trace) : exchange ∈ scene.record :=
  continues.recorded.subset (List.mem_append_right _ exchange_mem)

/-- The token is not cancelled on the way. -/
theorem Continues.running {before after : World σ} (continues : scene.Continues made trace)
    (running : before.cancelled = false) (follows : before.Follows after trace) :
    after.cancelled = false := by
  rw [follows.cancelled, cancelledAfter, running, Bool.false_or, List.any_eq_false]
  intro occurrence occurrence_mem cancels
  cases occurrence with
  | cancellation => exact continues.uncancelled occurrence_mem
  | _ => cases cancels

/-- A plan that was run leaves the run on its way. -/
theorem Underway.after {α : Type} {plan : Plan α} {world : World σ}
    (underway : scene.Underway world made) (continues : scene.Continues made trace)
    (follows : world.Follows (plan.run scene.environment world).2 trace) :
    scene.Underway (plan.run scene.environment world).2 (made ++ exchanges trace) :=
  ⟨continues.running underway.running follows, Plan.run_reaches underway.reached follows⟩

end Scene

/-- Wherever the record goes on with it, a plan that starts at a stage with a property ends with a
value, at a stage that goes with the value. -/
def Plan.Achieves {σ α : Type} (scene : Scene σ) (plan : Plan α) (before : Stage σ → Prop)
    (after : α → Stage σ → Prop) : Prop :=
  ∀ ⦃world : World σ⦄ ⦃made : List Exchange⦄ ⦃trace : List Occurrence⦄,
    scene.Underway world made → before ⟨world.situation, made⟩ → scene.Continues made trace →
      world.Follows (plan.run scene.environment world).2 trace →
        ∃ value, (plan.run scene.environment world).1 = .ok value ∧
          after value ⟨(plan.run scene.environment world).2.situation, made ++ exchanges trace⟩

namespace Plan

variable {σ α β : Type} {scene : Scene σ} {before : Stage σ → Prop}

theorem Achieves.mono {plan : Plan α} {after weaker : α → Stage σ → Prop}
    {stronger : Stage σ → Prop} (achieves : plan.Achieves scene before after)
    (starts : ∀ stage, stronger stage → before stage)
    (ends : ∀ value stage, after value stage → weaker value stage) :
    plan.Achieves scene stronger weaker := by
  intro world made trace underway holds continues follows
  rcases achieves underway (starts _ holds) continues follows with ⟨value, ended, reached⟩
  exact ⟨value, ended, ends value _ reached⟩

theorem Achieves.weaken {plan : Plan α} {after weaker : α → Stage σ → Prop}
    (achieves : plan.Achieves scene before after)
    (ends : ∀ value stage, after value stage → weaker value stage) :
    plan.Achieves scene before weaker :=
  achieves.mono (fun _ holds => holds) ends

/-- A plan achieves what its second part achieves, from what the first part achieves. -/
theorem Achieves.bind {plan : Plan α} {next : α → Plan β} {middle : α → Stage σ → Prop}
    {after : β → Stage σ → Prop} (first : plan.Achieves scene before middle)
    (rest : ∀ value, (next value).Achieves scene (middle value) after) :
    (plan.bind next).Achieves scene before after := by
  intro world made trace underway holds continues follows
  rcases run_course scene.environment plan world with ⟨early, _, -, starts, -⟩
  rw [run_bind] at follows ⊢
  rcases ended : plan.run scene.environment world with ⟨result, reached⟩
  have started {part : List Occurrence} (goes : world.Follows reached part) :
      world.Follows (plan.run scene.environment world).2 part := by
    rwa [ended]
  rw [ended] at starts follows
  -- the first part cannot fail, since the record goes on with it
  rcases result with failure | value
  · rcases first underway holds continues (started follows) with ⟨value, impossible, -⟩
    rw [ended] at impossible
    cases impossible
  · rcases run_course scene.environment (next value) reached with ⟨late, _, -, goes, -⟩
    have parts : trace = early ++ late := follows.since.symm.trans (starts.trans goes).since
    rw [parts] at continues
    rcases first underway holds continues.left (started starts) with ⟨same, ending, between⟩
    have still := underway.after continues.left (started starts)
    rw [ended] at ending between still
    cases ending
    rw [parts, exchanges_append, ← List.append_assoc]
    exact rest value still between continues.right goes

/-- If the value of the first part is known, only that value is gone on with. -/
theorem Achieves.bind_known {plan : Plan α} {next : α → Plan β} {value : α}
    {after : β → Stage σ → Prop} (first : plan.Achieves scene before fun found _ => found = value)
    (rest : (next value).Achieves scene (fun _ => True) after) :
    (plan.bind next).Achieves scene before after := by
  refine first.bind fun found => ?_
  rintro world made trace underway rfl
  exact rest underway trivial

theorem achieves_done (value : α) :
    (Plan.done value).Achieves scene before fun result stage => result = value ∧ before stage := by
  intro world made trace _ holds _ follows
  have nothing : trace = [] := follows.since.symm.trans (World.Follows.refl world).since
  refine ⟨value, rfl, rfl, ?_⟩
  rw [nothing, exchanges_nil, List.append_nil]
  exact holds

theorem achieves_done_known (value : α) :
    (Plan.done value).Achieves scene before fun found _ => found = value :=
  (achieves_done value).weaken fun _ _ ends => ends.1

theorem achieves_ofExcept {result : Except Failure α} {value : α} (ended : result = .ok value) :
    (Plan.ofExcept result).Achieves scene before fun found _ => found = value := by
  rw [ended]
  exact achieves_done_known value

/-- A call that always succeeds in the record does. -/
theorem achieves_ask {cluster : ClusterHandle} {call : Call}
    (granted : ∀ {result}, ⟨cluster, call, result⟩ ∈ scene.record →
      ∃ answer, result = .ok answer) :
    (Plan.ask cluster call).Achieves scene before fun answer stage =>
      ⟨cluster, call, .ok answer⟩ ∈ scene.record ∧
        ∃ earlier, before earlier ∧
          stage.made = earlier.made ++ [⟨cluster, call, .ok answer⟩] := by
  intro world made trace _ holds continues follows
  rcases run_course scene.environment (Plan.ask cluster call) world with
    ⟨same, _, course, starts, -⟩
  have exchanged := course.of_ask.2.exchanges
  rw [starts.since.symm.trans follows.since] at exchanged
  have recorded := continues.mem_record (exchanged ▸ List.mem_singleton_self _)
  rcases granted recorded with ⟨answer, succeeded⟩
  rw [exchanged]
  rw [succeeded] at recorded ⊢
  exact ⟨answer, rfl, recorded, _, holds, rfl⟩

/-- A call whose answer is on record gets that answer. -/
theorem achieves_ask_known {cluster : ClusterHandle} {call : Call} {answer : call.Answer}
    (known : ∀ {result}, ⟨cluster, call, result⟩ ∈ scene.record → result = .ok answer) :
    (Plan.ask cluster call).Achieves scene before fun found _ => found = answer := by
  refine (achieves_ask fun recorded => ⟨answer, known recorded⟩).weaken ?_
  rintro found stage ⟨recorded, -⟩
  exact Except.ok.inj (known recorded)

/-- A part that achieves something does not fail, so its failures need no care. -/
theorem Achieves.bind_attempt {plan : Plan α} {next : Except Failure α → Plan β}
    {middle : α → Stage σ → Prop} {after : β → Stage σ → Prop}
    (first : plan.Achieves scene before middle)
    (rest : ∀ value, (next (.ok value)).Achieves scene (middle value) after) :
    (plan.attempt.bind next).Achieves scene before after := by
  have attempted : plan.attempt.Achieves scene before fun result stage =>
      ∃ value, result = .ok value ∧ middle value stage := by
    intro world made trace underway holds continues follows
    rw [run_attempt] at follows ⊢
    rcases first underway holds continues follows with ⟨value, ended, reached⟩
    exact ⟨_, rfl, value, ended, reached⟩
  refine attempted.bind fun result => ?_
  rintro world made trace underway ⟨value, rfl, holds⟩
  exact rest value underway holds

theorem achieves_checkToken :
    Plan.checkToken.Achieves scene before fun _ stage => before stage := by
  intro world made trace underway holds continues follows
  have passed : Plan.checkToken.run scene.environment world =
      (Plan.done ()).run scene.environment world := by
    change (if world.cancelled then Plan.fail _ else Plan.done ()).run scene.environment world = _
    rw [underway.running]
    rfl
  rw [passed] at follows ⊢
  rcases achieves_done () underway holds continues follows with ⟨value, ended, -, reached⟩
  exact ⟨value, ended, reached⟩

theorem achieves_warn (message : String) :
    (Plan.warn message).Achieves scene before fun _ stage => before stage := by
  intro world made trace _ holds _ follows
  have logged : trace = [.logged ⟨.warn, message⟩] :=
    follows.since.symm.trans (world.record_follows rfl).since
  have silent : exchanges trace = [] := by
    rw [logged]
    rfl
  refine ⟨(), rfl, ?_⟩
  rw [silent, List.append_nil]
  exact holds

/-- A pause moves the clock and nothing else. -/
theorem achieves_pause (length : Duration) {situation : Situation σ} :
    (Plan.pause length).Achieves scene (·.situation = situation) fun _ stage =>
      stage.situation = { situation with clock := situation.clock + length } := by
  intro world made trace underway holds continues follows
  have still := continues.running underway.running follows
  have pause_run : (Plan.pause length).run scene.environment world =
      (if (world.pause scene.environment length).1 then Plan.done () else Plan.fail .cancelled).run
        scene.environment (world.pause scene.environment length).2 := rfl
  have passes : world.pause scene.environment length =
      (true, { world with clock := world.clock + length }) := by
    rcases planned : scene.environment.cancelTime with _ | time
    · simp [World.pause, underway.running, planned]
    · by_cases falls : time ≤ world.clock + length
      · -- the token would be cancelled in the pause
        simp [pause_run, World.pause, World.cancel, underway.running, planned, falls, run] at still
      · simp [World.pause, underway.running, planned, falls]
  rw [pause_run, passes, ← holds]
  exact ⟨(), rfl, rfl⟩

/-- A fact about the run may be assumed where it is part of the stage. -/
theorem achieves_of_fact {plan : Plan α} {fact : Prop} {after : α → Stage σ → Prop}
    (achieves : fact → plan.Achieves scene before after) :
    plan.Achieves scene (fun stage => fact ∧ before stage) after := by
  intro world made trace underway holds
  exact achieves holds.1 underway holds.2

/-- The stage before a plan may be used to show what it achieves. -/
theorem achieves_of_stage {plan : Plan α} {after : α → Stage σ → Prop}
    (achieves : ∀ stage, scene.Passes stage → before stage →
      plan.Achieves scene (·.situation = stage.situation) after) :
    plan.Achieves scene before after := by
  intro world made trace underway holds continues
  have passes : scene.Passes ⟨world.situation, made⟩ :=
    ⟨underway.reached, continues.recorded_before⟩
  exact achieves _ passes holds underway rfl continues

/-- What calls of a kind leave as it is stays so in a plan that makes no others. -/
theorem Achieves.frame {allowed : Call → Bool} {plan : Plan α} {after : α → Stage σ → Prop}
    (achieves : plan.Achieves scene before after) (kept : List Exchange → Prop)
    (within : plan.Within allowed)
    (keeps : ∀ {made more : List Exchange}, kept made →
      (∀ exchange ∈ more, allowed exchange.call = true) → kept (made ++ more)) :
    plan.Achieves scene (fun stage => before stage ∧ kept stage.made) fun value stage =>
      after value stage ∧ kept stage.made := by
  intro world made trace underway holds continues follows
  rcases achieves underway holds.1 continues follows with ⟨value, ended, reached⟩
  rcases run_course scene.environment plan world with ⟨same, _, course, starts, -⟩
  have calls := (course.within within).2
  rw [starts.since.symm.trans follows.since] at calls
  exact ⟨value, ended, reached, keeps holds.2 calls⟩

end Plan

/-! ## Waits -/

section Waits

variable {σ α : Type} {scene : Scene σ} {cluster : ClusterHandle} {call : Call}
  {judge : Except Failure call.Answer → Except Failure (Option α)} {situation last : Situation σ}

/-- The look that asks a cluster once and judges the answer. -/
def judged (cluster : ClusterHandle) (call : Call)
    (judge : Except Failure call.Answer → Except Failure (Option α)) : Plan (Option α) :=
  .step (.ask cluster call) fun reply => Plan.ofExcept (judge reply)

theorem achieves_attempt_judged :
    (judged cluster call judge).attempt.Achieves scene (·.situation = situation)
      fun result stage => result = judge (scene.environment.answer cluster call situation) ∧
        stage.situation = scene.environment.next cluster call situation := by
  intro world made trace underway holds continues follows
  have look_run : (judged cluster call judge).run scene.environment world =
      (judge (scene.environment.answer cluster call world.situation),
        (world.ask scene.environment cluster call).2) :=
    Plan.run_ofExcept scene.environment _ _
  rw [Plan.run_attempt, look_run, ← holds]
  exact ⟨_, rfl, rfl, World.situation_ask scene.environment world cluster call⟩

/-- What a look finds in a wait that excuses failures of the cluster. -/
inductive LooksLike : Except Failure (Option α) → Option α → Prop where
  | answered (found : Option α) : LooksLike (.ok found) found
  | excused {failure : Failure} (kind : failure.kind = .cluster) :
      LooksLike (.error failure) none

/-- A judgement of answers bears with some and takes others for what is wanted. -/
structure Judges (judge : Except Failure call.Answer → Except Failure (Option α))
    (bears wanted : Except Failure call.Answer → Prop) : Prop where
  bears : ∀ {answer}, bears answer → LooksLike (judge answer) none
  wanted : ∀ {answer}, wanted answer → ∃ found, LooksLike (judge answer) (some found)

/-- One look is judged by the answer that the situation gives. -/
theorem achieves_lookOnce (scene : Scene σ) {found : Option α}
    (looks : LooksLike (judge (scene.environment.answer cluster call situation)) found) :
    (lookOnce (judged cluster call judge)).Achieves scene (·.situation = situation)
      fun result stage => result = found ∧
        stage.situation = scene.environment.next cluster call situation := by
  refine Plan.achieves_checkToken.bind fun _ => achieves_attempt_judged.bind fun result => ?_
  apply Plan.achieves_of_fact
  intro shown
  rw [shown]
  generalize judge (scene.environment.answer cluster call situation) = outcome at looks
  cases looks with
  | answered => exact Plan.achieves_done found
  | excused kind =>
      dsimp only
      rw [if_pos kind]
      exact (Plan.achieves_warn _).bind fun _ => Plan.achieves_done none

/-- A wait that looks often enough to find what it waits for ends well. -/
theorem achieves_pollUntil {interval limit : Duration} {positive : 0 < interval}
    {tooLate : Failure} {bears wanted : Except Failure call.Answer → Prop}
    (judges : Judges judge bears wanted)
    (finds : scene.environment.Finds cluster call interval bears wanted (limit / interval)
      situation last) :
    (pollUntil positive limit tooLate (judged cluster call judge)).Achieves scene
      (·.situation = situation) fun _ stage => stage.situation = last := by
  generalize remaining_eq : limit / interval = remaining at finds
  induction finds generalizing limit with
  | @now remaining situation shown =>
      rcases judges.wanted shown with ⟨found, looks⟩
      rw [pollUntil_eq]
      refine (achieves_lookOnce scene looks).bind fun result => ?_
      apply Plan.achieves_of_fact
      rintro rfl
      exact (Plan.achieves_done found).weaken fun _ _ ends => ends.2
  | @later remaining situation last borne more ih =>
      -- a look remains, and so does an interval before it
      have again : interval ≤ limit := by
        refine Nat.le_of_not_lt fun short => ?_
        rw [Nat.div_eq_of_lt short] at remaining_eq
        cases remaining_eq
      rw [Nat.div_eq_sub_div positive again] at remaining_eq
      rw [pollUntil_eq]
      refine (achieves_lookOnce scene (judges.bears borne)).bind fun result => ?_
      apply Plan.achieves_of_fact
      rintro rfl
      rw [goOn, if_pos again]
      exact (Plan.achieves_pause interval).bind fun _ => ih (Nat.succ.inj remaining_eq)

end Waits

/-! ## Attempts -/

/-- Wherever the record goes on with it, a part of an attempt that starts at a stage with a
property ends with a value, at a stage that goes with the value. -/
def Provisioning.Achieves {σ α : Type} (scene : Scene σ) (part : Provisioning α)
    (before : Stage σ → Prop) (after : α → Stage σ → Prop) : Prop :=
  ∀ resources, (part resources).Achieves scene before fun ended stage =>
    ∃ value, ended.1 = .ok value ∧ after value stage

namespace Provisioning

variable {σ α β : Type} {scene : Scene σ} {before : Stage σ → Prop}

theorem Achieves.bind {part : Provisioning α} {next : α → Provisioning β}
    {middle : α → Stage σ → Prop} {after : β → Stage σ → Prop}
    (first : part.Achieves scene before middle)
    (rest : ∀ value, (next value).Achieves scene (middle value) after) :
    (part >>= next).Achieves scene before after := by
  intro resources
  refine Plan.Achieves.bind (first resources) fun ended => ?_
  rcases ended with ⟨result, between⟩
  intro world made trace underway holds
  rcases holds with ⟨value, rfl, reached⟩
  exact rest value between underway reached

theorem Achieves.bind_known {part : Provisioning α} {next : α → Provisioning β} {value : α}
    {after : β → Stage σ → Prop} (first : part.Achieves scene before fun found _ => found = value)
    (rest : (next value).Achieves scene (fun _ => True) after) :
    (part >>= next).Achieves scene before after := by
  refine first.bind fun found resources => ?_
  rintro world made trace underway rfl
  exact rest resources underway trivial

theorem Achieves.mono {part : Provisioning α} {after weaker : α → Stage σ → Prop}
    {stronger : Stage σ → Prop} (achieves : part.Achieves scene before after)
    (starts : ∀ stage, stronger stage → before stage)
    (ends : ∀ value stage, after value stage → weaker value stage) :
    part.Achieves scene stronger weaker := by
  intro resources
  refine (achieves resources).mono starts ?_
  rintro ended stage ⟨value, succeeded, reached⟩
  exact ⟨value, succeeded, ends value stage reached⟩

theorem achieves_end (value : α) {after : α → Stage σ → Prop} (resources : Provisioned) :
    (Plan.done ((.ok value : Except Failure α), resources)).Achieves scene (after value)
      fun ended stage => ∃ found, ended.1 = .ok found ∧ after found stage := by
  refine (Plan.achieves_done _).weaken ?_
  rintro _ stage ⟨rfl, holds⟩
  exact ⟨value, rfl, holds⟩

theorem achieves_ofExcept {result : Except Failure α} {value : α} (ended : result = .ok value) :
    (ofExcept result).Achieves scene before fun found _ => found = value := by
  rw [ended]
  intro resources
  exact (achieves_end value resources).mono (fun _ _ => rfl) fun _ _ ends => ends

theorem achieves_lift {plan : Plan α} {after : α → Stage σ → Prop}
    (achieves : plan.Achieves scene before after) : (lift plan).Achieves scene before after :=
  fun resources => achieves.bind_attempt fun value => achieves_end value resources

/-- An object was created at a stage with a property, and nothing was asked since. -/
def JustCreated (before : Stage σ → Prop) (cluster : ClusterHandle) (object : ClusterObject)
    (resource : ResourceRef) (stage : Stage σ) : Prop :=
  ∃ earlier, before earlier ∧
    stage.made = earlier.made ++ [⟨cluster, .create object, .ok resource⟩]

/-- An object that is granted is created, and nothing is asked since. -/
theorem achieves_creation {cluster : ClusterHandle} {object : ClusterObject}
    (granted : ∀ {result}, ⟨cluster, .create object, result⟩ ∈ scene.record →
      ∃ resource, result = .ok resource) :
    (creation cluster object).Achieves scene before (JustCreated before cluster object) := by
  refine Plan.achieves_checkToken.bind fun _ =>
    (Plan.achieves_ask granted).bind_attempt fun resource => ?_
  refine (Plan.achieves_done resource).weaken ?_
  rintro _ stage ⟨rfl, -, created⟩
  exact created

theorem achieves_create {cluster : ClusterHandle} {object : ClusterObject}
    (granted : ∀ {result}, ⟨cluster, .create object, result⟩ ∈ scene.record →
      ∃ resource, result = .ok resource) :
    (create cluster object).Achieves scene before (JustCreated before cluster object) := by
  intro resources
  exact (achieves_creation granted).bind_attempt fun resource =>
    achieves_end resource (resources.push cluster resource)

end Provisioning

/-- A transfer that achieves something lets its attempt end well, whatever the deletions come to. -/
theorem achieves_withResources {σ : Type} {scene : Scene σ} {before : Stage σ → Prop}
    {transfer : Provisioning Unit} {after : Unit → Stage σ → Prop}
    (accountable : transfer.Accountable) (achieves : transfer.Achieves scene before after) :
    (withResources transfer).Achieves scene before fun _ _ => True := by
  intro world made trace underway holds continues follows
  rcases run_withResources scene.environment accountable world with
    ⟨middle, work, teardown, released⟩
  rcases released.transferred with ⟨resources, transferred⟩
  have working : world.Follows ((transfer .empty).run scene.environment world).2 work := by
    rw [transferred]
    exact released.working
  rcases continues.parts follows released.working released.releasing with ⟨transferring, -⟩
  rcases achieves .empty underway holds transferring working with
    ⟨ended, same, value, succeeded, -⟩
  rw [transferred] at same
  cases same
  exact ⟨value, succeeded, trivial⟩

end VolumeMigration
