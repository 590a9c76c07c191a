import VolumeMigration.Proofs.Plan.Situations

/-!
# What a plan spends

Between two worlds some time passes, some looks are made and some other calls. `Plan.Spends` bounds
the three for every run of a plan. A wait spends no more than its limit, and makes one look more
than the limit has intervals: the induction is on the time that remains (`Duration.induct`).
-/

namespace VolumeMigration

variable {σ : Type}

/-- How many of some calls look at objects. -/
def lookCount (made : List Exchange) : Nat :=
  made.countP (·.call.isLook)

/-- How many of some calls do not look at objects. -/
def otherCount (made : List Exchange) : Nat :=
  made.countP (!·.call.isLook)

@[simp]
theorem lookCount_append (first second : List Exchange) :
    lookCount (first ++ second) = lookCount first + lookCount second :=
  List.countP_append

@[simp]
theorem otherCount_append (first second : List Exchange) :
    otherCount (first ++ second) = otherCount first + otherCount second :=
  List.countP_append

/-- Between two worlds no more is spent than some time, some looks and some other calls. -/
structure World.Spends (before after : World σ) (time : Duration) (looks others : Nat) :
    Prop where
  later : before.clock ≤ after.clock
  inTime : after.clock ≤ before.clock + time
  called : ∃ trace, before.Follows after trace ∧ lookCount (exchanges trace) ≤ looks ∧
    otherCount (exchanges trace) ≤ others

namespace World.Spends

variable {before middle after : World σ} {time more : Duration}
  {looks moreLooks others moreOthers : Nat}

theorem refl (world : World σ) : world.Spends world 0 0 0 :=
  ⟨Nat.le_refl _, Nat.le_refl _, [], .refl world, Nat.le_refl _, Nat.le_refl _⟩

/-- What is spent in two parts adds up. -/
theorem trans (left : before.Spends middle time looks others)
    (right : middle.Spends after more moreLooks moreOthers) :
    before.Spends after (time + more) (looks + moreLooks) (others + moreOthers) := by
  rcases left.called with ⟨first, follows, looks_le, others_le⟩
  rcases right.called with ⟨second, followed, moreLooks_le, moreOthers_le⟩
  refine ⟨Nat.le_trans left.later right.later, ?_, first ++ second, follows.trans followed, ?_, ?_⟩
  · calc
      after.clock ≤ middle.clock + more := right.inTime
      _ ≤ before.clock + time + more := Nat.add_le_add_right left.inTime more
      _ = before.clock + (time + more) := Nat.add_assoc _ _ _
  · rw [exchanges_append, lookCount_append]
    exact Nat.add_le_add looks_le moreLooks_le
  · rw [exchanges_append, otherCount_append]
    exact Nat.add_le_add others_le moreOthers_le

theorem mono (spends : before.Spends after time looks others) (time_le : time ≤ more)
    (looks_le : looks ≤ moreLooks) (others_le : others ≤ moreOthers) :
    before.Spends after more moreLooks moreOthers := by
  rcases spends.called with ⟨trace, follows, looked, called⟩
  refine ⟨spends.later, ?_, trace, follows, ?_, ?_⟩
  · exact Nat.le_trans spends.inTime (Nat.add_le_add_left time_le _)
  · exact Nat.le_trans looked looks_le
  · exact Nat.le_trans called others_le

end World.Spends

/-! ## Steps of a plan -/

namespace World

variable (environment : Environment σ) (world : World σ)

theorem clock_ask (cluster : ClusterHandle) (call : Call) :
    (world.ask environment cluster call).2.clock = world.clock :=
  congrArg Situation.clock (situation_ask environment world cluster call)

/-- A call takes no time. -/
theorem spends_ask (cluster : ClusterHandle) (call : Call) :
    world.Spends (world.ask environment cluster call).2 0 (if call.isLook then 1 else 0)
      (if call.isLook then 0 else 1) := by
  rcases world.ask_effect environment cluster call with ⟨trace, effect, follows, -⟩
  have clock := clock_ask environment world cluster call
  refine ⟨Nat.le_of_eq clock.symm, Nat.le_of_eq clock, trace, follows, ?_, ?_⟩
  · rw [effect.exchanges_ask]
    simp [lookCount, List.countP_singleton]
  · rw [effect.exchanges_ask]
    cases look : call.isLook <;> simp [otherCount, look]

/-- A pause is over no later than after its length, also when it is interrupted. -/
theorem clock_pause_le (length : Duration) :
    (world.pause environment length).2.clock ≤ world.clock + length := by
  unfold pause
  dsimp only
  split
  · exact Nat.le_add_right _ _
  · split
    · exact Nat.le_refl _
    next time _ =>
      split
      next reached =>
        have cancelled_clock : ∀ other : World σ, other.cancel.clock = other.clock :=
          fun other => congrArg Situation.clock (situation_cancel other)
        rw [cancelled_clock]
        exact Nat.max_le.mpr ⟨Nat.le_add_right _ _, reached⟩
      next => exact Nat.le_refl _

/-- A pause takes at most its length. -/
theorem spends_pause (length : Duration) :
    world.Spends (world.pause environment length).2 length 0 0 := by
  rcases world.pause_effect environment length with ⟨trace, effect, follows, -⟩
  rcases situation_pause environment world length with ⟨clock, later, paused⟩
  have clock_eq : (world.pause environment length).2.clock = clock :=
    congrArg Situation.clock paused
  have silent : exchanges trace = [] := effect.exchanges_eq_nil (by simp)
  refine ⟨?_, clock_pause_le environment world length, trace, follows, ?_, ?_⟩
  · rw [clock_eq]
    exact later
  · simp [silent, lookCount]
  · simp [silent, otherCount]

end World

namespace Plan

variable {α β : Type} {environment : Environment σ}

/-- Every run of a plan spends no more than some time, some looks and some other calls. -/
def Spends (environment : Environment σ) (plan : Plan α) (time : Duration)
    (looks others : Nat) : Prop :=
  ∀ world : World σ, world.Spends (plan.run environment world).2 time looks others

/-- Every run of a plan takes no time and makes a bounded number of calls, none of them a look. -/
def Prompt (environment : Environment σ) (plan : Plan α) (others : Nat) : Prop :=
  plan.Spends environment 0 0 others

section Spends

variable {plan : Plan α} {next : α → Plan β} {time more : Duration}
  {looks moreLooks others moreOthers : Nat}

theorem Spends.mono (spends : plan.Spends environment time looks others) (time_le : time ≤ more)
    (looks_le : looks ≤ moreLooks) (others_le : others ≤ moreOthers) :
    plan.Spends environment more moreLooks moreOthers :=
  fun world => (spends world).mono time_le looks_le others_le

/-- What plans spend that follow each other adds up. -/
theorem Spends.bind (first : plan.Spends environment time looks others)
    (rest : ∀ value, (next value).Spends environment more moreLooks moreOthers) :
    (plan.bind next).Spends environment (time + more) (looks + moreLooks)
      (others + moreOthers) := by
  intro world
  have spent := first world
  rw [run_bind]
  rcases ran : plan.run environment world with ⟨_ | value, middle⟩
  · rw [ran] at spent
    exact spent.mono (Nat.le_add_right _ _) (Nat.le_add_right _ _) (Nat.le_add_right _ _)
  · rw [ran] at spent
    exact spent.trans (rest value middle)

theorem Spends.attempt (spends : plan.Spends environment time looks others) :
    plan.attempt.Spends environment time looks others := by
  intro world
  rw [run_attempt]
  exact spends world

theorem Prompt.mono (prompt : plan.Prompt environment others) (others_le : others ≤ moreOthers) :
    plan.Prompt environment moreOthers :=
  Spends.mono prompt (Nat.le_refl _) (Nat.le_refl _) others_le

theorem Prompt.bind (first : plan.Prompt environment others)
    (rest : ∀ value, (next value).Prompt environment moreOthers) :
    (plan.bind next).Prompt environment (others + moreOthers) :=
  Spends.bind first rest

end Spends

theorem prompt_done (value : α) : (Plan.done value).Prompt environment 0 :=
  fun world => .refl world

theorem prompt_fail (failure : Failure) : (Plan.fail failure : Plan α).Prompt environment 0 :=
  fun world => .refl world

theorem prompt_ofExcept (result : Except Failure α) : (ofExcept result).Prompt environment 0 := by
  cases result with
  | ok value => exact prompt_done value
  | error failure => exact prompt_fail failure

theorem run_ask (environment : Environment σ) (world : World σ) (cluster : ClusterHandle)
    (call : Call) :
    (ask cluster call).run environment world = world.ask environment cluster call := by
  change (ofExcept (world.ask environment cluster call).1).run environment
    (world.ask environment cluster call).2 = _
  cases answered : world.ask environment cluster call with
  | mk result after => cases result <;> rfl

theorem prompt_ask (cluster : ClusterHandle) (call : Call) (other : call.isLook = false) :
    (ask cluster call).Prompt environment 1 := by
  intro world
  rw [run_ask]
  simpa [other] using world.spends_ask environment cluster call

theorem spends_look (cluster : ClusterHandle) (call : Call) (look : call.isLook = true) :
    (ask cluster call).Spends environment 0 1 0 := by
  intro world
  rw [run_ask]
  simpa [look] using world.spends_ask environment cluster call

theorem prompt_checkToken : checkToken.Prompt environment 0 := by
  intro world
  cases cancelled : world.cancelled <;>
    simpa [checkToken, run, World.perform, cancelled] using World.Spends.refl world

theorem prompt_warn (message : String) : (warn message).Prompt environment 0 := by
  intro world
  refine ⟨Nat.le_refl _, Nat.le_refl _, _, world.record_follows rfl, ?_, ?_⟩ <;> exact Nat.le_refl _

theorem prompt_noteLeftover (failure : String) :
    (noteLeftover failure).Prompt environment 0 := by
  intro world
  refine ⟨Nat.le_refl _, Nat.le_refl _, [], ⟨?_, ?_⟩, ?_, ?_⟩ <;>
    simp [run, noteLeftover, World.perform, lookCount, otherCount]

theorem spends_pause (length : Duration) : (pause length).Spends environment length 0 0 := by
  intro world
  have paused := world.spends_pause environment length
  change world.Spends (Plan.run environment
    (if (world.pause environment length).1 then .done () else .fail .cancelled)
    (world.pause environment length).2).2 length 0 0
  split <;> exact paused

end Plan

/-! ## Waits -/

section Waits

variable {α : Type} {environment : Environment σ} {look : Plan (Option α)}

theorem Verdict.prompt_toPlan (verdict : Verdict) : verdict.toPlan.Prompt environment 0 := by
  cases verdict with
  | reached => exact Plan.prompt_done _
  | waiting => exact Plan.prompt_done _
  | hopeless failure => exact Plan.prompt_fail failure

theorem spends_lookAtPod (cluster : ClusterHandle) (pod : ResourceRef)
    (verdict : PodState → Verdict) :
    (lookAtPod cluster pod verdict).Spends environment 0 1 0 :=
  (Plan.spends_look cluster (.podState pod.ns pod.name) rfl).bind fun state =>
    (verdict state).prompt_toPlan

/-- A look that may fail is still one look. -/
theorem spends_lookOnce (looks : look.Spends environment 0 1 0) :
    (lookOnce look).Spends environment 0 1 0 := by
  refine Plan.Spends.mono (Plan.Spends.bind Plan.prompt_checkToken fun _ =>
    looks.attempt.bind fun result => (?_ : Plan.Prompt environment _ 0))
    (Nat.le_refl 0) (Nat.le_refl 1) (Nat.le_refl 0)
  rcases result with failure | answer
  · dsimp only
    split
    · exact (Plan.prompt_warn _).bind fun _ => Plan.prompt_done _
    · exact Plan.prompt_fail _
  · exact Plan.prompt_done _

/-- A wait spends at most its limit, with one look more than intervals fit into it. -/
theorem spends_pollUntil {interval : Duration} (positive : 0 < interval) (limit : Duration)
    (tooLate : Failure) (looks : look.Spends environment 0 1 0) :
    (pollUntil positive limit tooLate look).Spends environment limit (limit / interval + 1) 0 := by
  induction limit using Duration.induct positive with
  | step limit ih =>
      have goesOn : ∀ answer, (goOn positive limit tooLate look answer).Spends environment limit
          (limit / interval) 0 := by
        intro answer
        rcases answer with _ | answer
        · dsimp only [goOn]
          split
          next again =>
            have spent := (Plan.spends_pause interval).bind fun _ => ih again
            rw [Nat.add_sub_of_le again, Nat.zero_add, ← Nat.div_eq_sub_div positive again] at spent
            exact spent
          next =>
            exact Plan.Spends.mono
              ((Plan.spends_pause limit).bind fun _ => Plan.prompt_fail tooLate)
              (Nat.le_refl _) (Nat.zero_le _) (Nat.le_refl _)
        · exact Plan.Spends.mono (Plan.prompt_done answer) (Nat.zero_le _) (Nat.zero_le _)
            (Nat.le_refl _)
      have spent := (spends_lookOnce looks).bind goesOn
      rw [Nat.zero_add, Nat.add_comm 1] at spent
      rw [pollUntil_eq]
      exact spent

end Waits

end VolumeMigration
