import VolumeMigration.Proofs.Plan.Calls

/-!
# Situations of clusters

A situation is all that clusters go by when they answer: the time and their own state. It changes
when time passes and when a cluster is asked, and in no other way. A stage is a situation together
with the exchanges that led to it; whatever a plan does, it goes from stage to stage
(`Plan.run_reaches`). `Environment.Finds` follows someone who looks at regular intervals until a
look shows what is wanted.
-/

namespace VolumeMigration

/-- What the answer to a call depends on. -/
structure Situation (σ : Type) where
  clock : Duration
  clusters : σ

/-- A situation and the exchanges that led to it. -/
structure Stage (σ : Type) where
  situation : Situation σ
  made : List Exchange

namespace World

variable {σ : Type}

/-- What the answers to a call can depend on in a world. -/
def situation (world : World σ) : Situation σ :=
  { clock := world.clock, clusters := world.clusters }

@[simp]
theorem situation_cancel (world : World σ) : world.cancel.situation = world.situation := by
  unfold cancel
  split <;> rfl

end World

namespace Environment

variable {σ : Type}

/-- The answer to a call in a situation. -/
def answer (environment : Environment σ) (cluster : ClusterHandle) (call : Call)
    (situation : Situation σ) : Except Failure call.Answer :=
  (environment.respond cluster call situation.clock situation.clusters).1.result

/-- The situation after a call. -/
def next (environment : Environment σ) (cluster : ClusterHandle) (call : Call)
    (situation : Situation σ) : Situation σ :=
  { situation with
    clusters := (environment.respond cluster call situation.clock situation.clusters).2 }

/-- A call with its answer in a situation. -/
def exchange (environment : Environment σ) (cluster : ClusterHandle) (call : Call)
    (situation : Situation σ) : Exchange :=
  ⟨cluster, call, environment.answer cluster call situation⟩

/-- The stages that are reached from a situation while time passes and calls are made. -/
inductive Reaches (environment : Environment σ) (start : Situation σ) : Stage σ → Prop where
  | start : Reaches environment start ⟨start, []⟩
  | wait {situation : Situation σ} {made : List Exchange}
      (reached : Reaches environment start ⟨situation, made⟩) {clock : Duration}
      (later : situation.clock ≤ clock) :
      Reaches environment start ⟨{ situation with clock }, made⟩
  | ask {situation : Situation σ} {made : List Exchange}
      (reached : Reaches environment start ⟨situation, made⟩) (cluster : ClusterHandle)
      (call : Call) :
      Reaches environment start
        ⟨environment.next cluster call situation,
          made ++ [environment.exchange cluster call situation]⟩

/-- Every answer on record was given in some situation. -/
theorem Reaches.answered {environment : Environment σ} {start : Situation σ} {stage : Stage σ}
    (reached : environment.Reaches start stage) :
    ∀ exchange ∈ stage.made,
      ∃ situation, exchange.result =
        environment.answer exchange.cluster exchange.call situation := by
  induction reached with
  | start => simp
  | wait _ _ ih => exact ih
  | @ask situation made _ cluster call ih =>
      rw [List.forall_mem_append]
      refine ⟨ih, ?_⟩
      intro exchange exchange_mem
      rw [List.mem_singleton.mp exchange_mem]
      exact ⟨situation, rfl⟩

/-- Someone who asks the same again and again, as often as remains and at an interval, bears with
the answers until one is as wanted; the last situation is the one after that. -/
inductive Finds (environment : Environment σ) (cluster : ClusterHandle) (call : Call)
    (interval : Duration) (bears wanted : Except Failure call.Answer → Prop) :
    Nat → Situation σ → Situation σ → Prop where
  | now {remaining : Nat} {situation : Situation σ}
      (shown : wanted (environment.answer cluster call situation)) :
      Finds environment cluster call interval bears wanted remaining situation
        (environment.next cluster call situation)
  | later {remaining : Nat} {situation last : Situation σ}
      (borne : bears (environment.answer cluster call situation))
      (rest : Finds environment cluster call interval bears wanted remaining
        { environment.next cluster call situation with clock := situation.clock + interval } last) :
      Finds environment cluster call interval bears wanted (remaining + 1) situation last

end Environment

namespace World

variable {σ : Type} (environment : Environment σ)

/-- A call moves the situation as the clusters answer it. -/
theorem situation_ask (world : World σ) (cluster : ClusterHandle) (call : Call) :
    (world.ask environment cluster call).2.situation =
      environment.next cluster call world.situation := by
  unfold ask
  dsimp only
  split
  · rw [situation_cancel]
    rfl
  · rfl

/-- A pause moves the clock alone. -/
theorem situation_pause (world : World σ) (length : Duration) :
    ∃ clock, world.clock ≤ clock ∧ (world.pause environment length).2.situation =
      { world.situation with clock } := by
  unfold pause
  dsimp only
  split
  · exact ⟨world.clock, Nat.le_refl _, rfl⟩
  · split
    · exact ⟨world.clock + length, Nat.le_add_right _ _, rfl⟩
    next time _ =>
      split
      · refine ⟨max world.clock time, Nat.le_max_left _ _, ?_⟩
        rw [situation_cancel]
        rfl
      · exact ⟨world.clock + length, Nat.le_add_right _ _, rfl⟩

end World

/-! ## Stages of plans -/

theorem Action.Effect.exchanges_ask {cluster : ClusterHandle} {call : Call} {cancelled : Bool}
    {result : Except Failure call.Answer} {trace : List Occurrence} {noted : List String}
    (effect : (Action.ask cluster call).Effect cancelled result trace noted) :
    exchanges trace = [⟨cluster, call, result⟩] := by
  cases effect <;> rfl

theorem Action.Effect.exchanges_eq_nil {action : Action} {cancelled : Bool}
    {reply : action.Reply} {trace : List Occurrence} {noted : List String}
    (effect : action.Effect cancelled reply trace noted)
    (silent : ∀ cluster call, action ≠ .ask cluster call) : exchanges trace = [] := by
  cases effect <;> simp_all [exchanges, Occurrence.exchange?]

section Stages

variable {σ : Type} {environment : Environment σ} {start : Situation σ} {world : World σ}
  {made : List Exchange}

theorem World.perform_reaches {action : Action} {trace : List Occurrence} {noted : List String}
    (reached : environment.Reaches start ⟨world.situation, made⟩)
    (effect : action.Effect world.cancelled (world.perform environment action).1 trace noted) :
    environment.Reaches start
      ⟨(world.perform environment action).2.situation, made ++ exchanges trace⟩ := by
  cases action with
  | ask cluster call =>
      rw [effect.exchanges_ask]
      change environment.Reaches start
        ⟨(world.ask environment cluster call).2.situation,
          made ++ [environment.exchange cluster call world.situation]⟩
      rw [World.situation_ask]
      exact reached.ask cluster call
  | pause length =>
      rcases world.situation_pause environment length with ⟨clock, later, paused⟩
      rw [effect.exchanges_eq_nil (by simp), List.append_nil]
      change environment.Reaches start ⟨(world.pause environment length).2.situation, made⟩
      rw [paused]
      exact reached.wait later
  | cancelToken =>
      rw [effect.exchanges_eq_nil (by simp), List.append_nil]
      change environment.Reaches start ⟨world.cancel.situation, made⟩
      rwa [World.situation_cancel]
  | _ =>
      -- what else a plan does changes no situation
      rw [effect.exchanges_eq_nil (by simp), List.append_nil]
      exact reached

/-- A plan reaches what its actions reach. -/
theorem Plan.run_reaches {α : Type} {plan : Plan α} {trace : List Occurrence}
    (reached : environment.Reaches start ⟨world.situation, made⟩)
    (follows : world.Follows (plan.run environment world).2 trace) :
    environment.Reaches start
      ⟨(plan.run environment world).2.situation, made ++ exchanges trace⟩ := by
  induction plan generalizing world made trace with
  | done _ | fail _ =>
      have nothing : trace = [] := follows.since.symm.trans (World.Follows.refl world).since
      rw [nothing, exchanges_nil, List.append_nil]
      exact reached
  | step action next ih =>
      rcases world.perform_effect environment action with ⟨first, _, effect, performed, -⟩
      rcases run_course environment (next (world.perform environment action).1)
        (world.perform environment action).2 with ⟨second, _, -, followed, -⟩
      have parts : trace = first ++ second :=
        follows.since.symm.trans (performed.trans followed).since
      rw [parts, exchanges_append, ← List.append_assoc]
      exact ih _ (World.perform_reaches reached effect) followed

end Stages

end VolumeMigration
