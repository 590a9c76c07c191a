import VolumeMigration.Proofs.Plan.Schedule

/-!
# The calls of a run and their times

The history of a world tells which calls were made, but not when. `Plan.timedExchanges` lists the
calls of a run of a plan together with the times at which they were made; they are the calls that
the history gains (`Plan.map_exchange_timedExchanges`). For a wait there is one equation for each
way in which it can go on after a look.
-/

namespace VolumeMigration

variable {σ α β : Type}

/-- A call with its result, and the time at which it was made. -/
structure TimedExchange where
  time : Duration
  exchange : Exchange

/-- The call that a step of a plan is, at a time and with a reply. -/
def Action.timedExchanges (time : Duration) : (action : Action) → action.Reply → List TimedExchange
  | .ask cluster call, result => [⟨time, ⟨cluster, call, result⟩⟩]
  | .lookAtToken, _ | .cancelToken, _ | .pause _, _ | .log _, _ | .noteLeftover _, _ => []

namespace Plan

/-- The calls that a plan makes when it runs in a world. -/
def timedExchanges (environment : Environment σ) : Plan α → World σ → List TimedExchange
  | .done _, _ | .fail _, _ => []
  | .step action next, world =>
      let (reply, after) := world.perform environment action
      action.timedExchanges world.clock reply ++ (next reply).timedExchanges environment after

variable {environment : Environment σ} {world : World σ}

/-- The calls of the first part come first, and the others follow if it ends well. -/
theorem timedExchanges_bind (plan : Plan α) (next : α → Plan β) (world : World σ) :
    (plan.bind next).timedExchanges environment world =
      plan.timedExchanges environment world ++
        match plan.run environment world with
        | (.ok value, after) => (next value).timedExchanges environment after
        | (.error _, _) => [] := by
  induction plan generalizing world with
  | done value => rfl
  | fail failure => rfl
  | step action rest ih =>
      simp only [bind, timedExchanges, ih, List.append_assoc]
      rfl

@[simp]
theorem timedExchanges_attempt (plan : Plan α) (world : World σ) :
    plan.attempt.timedExchanges environment world = plan.timedExchanges environment world := by
  induction plan generalizing world with
  | done value => rfl
  | fail failure => rfl
  | step action rest ih => simp only [attempt, timedExchanges, ih]

@[simp]
theorem timedExchanges_ofExcept (result : Except Failure α) (world : World σ) :
    (ofExcept result).timedExchanges environment world = [] := by
  cases result <;> rfl

/-- A call is made when the clock says so, and answered in that situation. -/
theorem timedExchanges_ask (cluster : ClusterHandle) (call : Call) (world : World σ) :
    (ask cluster call).timedExchanges environment world =
      [⟨world.clock, environment.exchange cluster call world.situation⟩] := by
  change _ ++ (ofExcept _).timedExchanges environment _ = _
  rw [timedExchanges_ofExcept]
  rfl

@[simp]
theorem timedExchanges_checkToken (world : World σ) :
    checkToken.timedExchanges environment world = [] := by
  cases cancelled : world.cancelled <;>
    simp [checkToken, timedExchanges, World.perform, Action.timedExchanges, cancelled]

@[simp]
theorem timedExchanges_pause (length : Duration) (world : World σ) :
    (pause length).timedExchanges environment world = [] := by
  cases passed : (world.pause environment length).1 <;>
    simp [pause, timedExchanges, World.perform, Action.timedExchanges, passed]

@[simp]
theorem timedExchanges_warn (message : String) (world : World σ) :
    (warn message).timedExchanges environment world = [] :=
  rfl

/-- The calls of a run are those that the history gains. -/
theorem map_exchange_timedExchanges {plan : Plan α} {trace : List Occurrence}
    (follows : world.Follows (plan.run environment world).2 trace) :
    (plan.timedExchanges environment world).map TimedExchange.exchange = exchanges trace := by
  induction plan generalizing world trace with
  | done _ | fail _ =>
      have nothing : trace = [] := follows.since.symm.trans (World.Follows.refl world).since
      rw [nothing]
      rfl
  | step action next ih =>
      rcases world.perform_effect environment action with ⟨first, _, effect, performed, -⟩
      rcases run_course environment (next (world.perform environment action).1)
        (world.perform environment action).2 with ⟨second, _, -, followed, -⟩
      have parts : trace = first ++ second :=
        follows.since.symm.trans (performed.trans followed).since
      have now : (action.timedExchanges world.clock (world.perform environment action).1).map
          TimedExchange.exchange = exchanges first := by
        cases action with
        | ask cluster call =>
            rw [effect.exchanges_ask]
            rfl
        | _ =>
            rw [effect.exchanges_eq_nil (by simp)]
            rfl
      rw [parts, exchanges_append, ← now, ← ih _ followed, ← List.map_append]
      rfl

end Plan

/-! ## Waits -/

namespace Plan

variable {environment : Environment σ} {world : World σ} {length : Duration}

/-- A pause in which the token is cancelled fails at that moment. -/
theorem run_pause_interrupted {moment : Duration}
    (cancels : world.cancelMoment? environment = some moment)
    (in_time : moment ≤ world.clock + length) :
    (pause length).run environment world =
      (.error .cancelled, { world with clock := moment }.cancel) := by
  rw [← bind_done (pause length)]
  exact run_pause_bind_interrupted cancels in_time

theorem run_pause_passed
    (later : ∀ moment ∈ world.cancelMoment? environment, world.clock + length < moment) :
    (pause length).run environment world =
      (.ok (), { world with clock := world.clock + length }) := by
  rw [← bind_done (pause length)]
  exact run_pause_bind_passed later

end Plan

section Waits

variable {environment : Environment σ} {interval limit : Duration} {positive : 0 < interval}
  {tooLate : Failure} {look : Plan (Option α)} {world : World σ}

/-- What is made of an answer makes no calls. -/
theorem timedExchanges_lookOnce (uncancelled : world.cancelled = false) :
    (lookOnce look).timedExchanges environment world = look.timedExchanges environment world := by
  have token : Plan.checkToken.run environment world = (.ok (), world) := by
    simp [Plan.checkToken, Plan.run, World.perform, uncancelled]
  rcases looked : look.run environment world with ⟨failure | answer, ended⟩
  · by_cases kind : failure.kind = .cluster <;>
      simp [lookOnce, Plan.timedExchanges_bind, Plan.run_attempt, token, looked, kind,
        Plan.timedExchanges, Action.timedExchanges, Plan.warn, Plan.run]
  · simp [lookOnce, Plan.timedExchanges_bind, Plan.run_attempt, token, looked,
      Plan.timedExchanges]

theorem timedExchanges_pollUntil_of_cancelled (positive : 0 < interval)
    (cancelled : world.cancelled = true) :
    (pollUntil positive limit tooLate look).timedExchanges environment world = [] := by
  have token : Plan.checkToken.run environment world = (.error .cancelled, world) := by
    simp [Plan.checkToken, Plan.run, World.perform, cancelled]
  simp [pollUntil_eq, lookOnce, Plan.timedExchanges_bind, Plan.run_bind, token]

/-- A look that decides is the last one. -/
theorem timedExchanges_pollUntil_of_decided (positive : 0 < interval)
    (uncancelled : world.cancelled = false) {result : Except Failure α}
    (decided : decision? (TimedLook.ofRun environment look world).answer = some result) :
    (pollUntil positive limit tooLate look).timedExchanges environment world =
      look.timedExchanges environment world := by
  rw [pollUntil_eq, Plan.timedExchanges_bind, timedExchanges_lookOnce uncancelled,
    run_lookOnce uncancelled]
  cases result <;> simp [decided, goOn, Plan.timedExchanges]

/-- A look that leaves it open is followed by the others. -/
theorem timedExchanges_pollUntil_of_undecided (positive : 0 < interval)
    (uncancelled : world.cancelled = false)
    (undecided : decision? (TimedLook.ofRun environment look world).answer = none) :
    (pollUntil positive limit tooLate look).timedExchanges environment world =
      look.timedExchanges environment world ++
        (goOn positive limit tooLate look none).timedExchanges environment
          (TimedLook.ofRun environment look world).settled := by
  rw [pollUntil_eq, Plan.timedExchanges_bind, timedExchanges_lookOnce uncancelled,
    run_lookOnce uncancelled]
  simp [undecided]

/-- A cancellation before the next look prevents it. -/
theorem timedExchanges_goOn_interrupted {moment : Duration}
    (cancels : world.cancelMoment? environment = some moment)
    (before_look : moment ≤ world.clock + interval) (in_time : moment ≤ world.clock + limit) :
    (goOn positive limit tooLate look none).timedExchanges environment world = [] := by
  dsimp only [goOn]
  split
  · have paused := Plan.run_pause_interrupted cancels before_look
    simp [Plan.timedExchanges_bind, paused]
  · have paused := Plan.run_pause_interrupted cancels in_time
    simp [Plan.timedExchanges_bind, paused]

/-- No look is made beyond the limit. -/
theorem timedExchanges_goOn_expired (last : limit < interval)
    (later : ∀ moment ∈ world.cancelMoment? environment, world.clock + limit < moment) :
    (goOn positive limit tooLate look none).timedExchanges environment world = [] := by
  rw [goOn, if_neg (Nat.not_le_of_lt last)]
  simp [Plan.timedExchanges_bind, Plan.run_pause_passed later, Plan.timedExchanges]

/-- The next look is made one interval later. -/
theorem timedExchanges_goOn_again (again : interval ≤ limit)
    (later : ∀ moment ∈ world.cancelMoment? environment, world.clock + interval < moment) :
    (goOn positive limit tooLate look none).timedExchanges environment world =
      (pollUntil positive (limit - interval) tooLate look).timedExchanges environment
        { world with clock := world.clock + interval } := by
  rw [goOn, if_pos again]
  simp [Plan.timedExchanges_bind, Plan.run_pause_passed later]

end Waits

end VolumeMigration
