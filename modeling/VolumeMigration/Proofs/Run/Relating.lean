import VolumeMigration.Proofs.Plan.Relating
import VolumeMigration.Proofs.Run.Attempts

/-!
# Runs in related worlds

Two computations are compared by a relation between worlds and a relation between their answers
(`Engine.Relates`). Where the relation is hidden from runs, engines that differ only in what they do
with events lead from related worlds to related worlds: `Engine.relates_run`.
-/

namespace VolumeMigration

namespace Engine

variable {σ α β γ δ : Type} {worlds : World σ → World σ → Prop}

/-- Two computations lead from related worlds to related worlds, with related answers. -/
def Relates (worlds : World σ → World σ → Prop) (related : α → β → Prop) (first : Session σ α)
    (second : Session σ β) : Prop :=
  ∀ ⦃left right : World σ⦄, worlds left right →
    related (first.run left).1 (second.run right).1 ∧
      worlds (first.run left).2 (second.run right).2

/-- Related sessions go on with related sessions. -/
theorem Relates.bind {related : α → β → Prop} {next : γ → δ → Prop} {first : Session σ α}
    {second : Session σ β} {more : α → Session σ γ} {others : β → Session σ δ}
    (relates : Relates worlds related first second)
    (rest : ∀ value other, related value other →
      Relates worlds next (more value) (others other)) :
    Relates worlds next (first >>= more) (second >>= others) := by
  intro left right related
  rcases relates related with ⟨answers, after⟩
  exact rest _ _ answers after

theorem Relates.then {next : γ → δ → Prop} {first second : Session σ α} {more : α → Session σ γ}
    {others : α → Session σ δ} (relates : Relates worlds Eq first second)
    (rest : ∀ value, Relates worlds next (more value) (others value)) :
    Relates worlds next (first >>= more) (second >>= others) := by
  apply relates.bind
  rintro value other rfl
  exact rest value

theorem relates_pure {related : α → β → Prop} {value : α} {other : β}
    (same : related value other) :
    Relates worlds related (pure value : Session σ α) (pure other) :=
  fun _ _ after => ⟨same, after⟩

theorem relates_get : Relates worlds worlds (get : Session σ (World σ)) get :=
  fun _ _ related => ⟨related, related⟩

theorem relates_follow {environment : Environment σ} {plan other : Plan α}
    (relates : plan.Relates environment worlds other) :
    Relates worlds Eq (follow environment plan) (follow environment other) :=
  fun _ _ related => relates related

section Concordant

variable (concordant : World.Concordant worlds)
include concordant

theorem relates_log (level : LogLevel) (message : String) :
    Relates worlds Eq (log level message : Session σ Unit) (log level message) :=
  fun _ _ related => ⟨rfl, concordant.record related _⟩

theorem relates_transition (state : RunState) (message : String) :
    Relates worlds Eq (transition state message : Session σ Unit) (transition state message) := by
  refine (relates_log concordant .debug message).then fun _ => ?_
  intro left right related
  have stepped := concordant.record related (.stepped ⟨state, message, right.clock⟩)
  refine ⟨rfl, ?_⟩
  change worlds (left.record (.stepped ⟨state, message, left.clock⟩)) _
  rw [concordant.clock related]
  exact stepped

theorem relates_takeLeftovers :
    Relates worlds Eq (takeLeftovers : Session σ (List String)) takeLeftovers :=
  fun _ _ related => ⟨concordant.leftovers related, concordant.note related []⟩

theorem relates_conclude (strategy : Strategy) (started : Duration) (outcome : AttemptOutcome)
    (leftovers : List String) :
    Relates worlds Eq (conclude strategy started outcome leftovers : Session σ AttemptResult)
      (conclude strategy started outcome leftovers) := by
  refine relates_get.bind fun left right related => ?_
  rw [concordant.clock related]
  exact relates_pure rfl

theorem relates_warnLeftovers (strategy : Strategy) (leftovers : List String) :
    Relates worlds Eq (warnLeftovers strategy leftovers : Session σ PUnit)
      (warnLeftovers strategy leftovers) := by
  induction leftovers with
  | nil => exact relates_pure rfl
  | cons leftover rest ih =>
      rw [warnLeftovers, List.forIn_cons]
      exact (relates_log concordant _ _).then fun _ => ih

theorem relates_stop (message : String) (attempts : List AttemptResult) :
    Relates worlds Eq (stop message attempts : Session σ (Except Failure MigrationReport))
      (stop message attempts) :=
  (relates_transition concordant _ _).then fun _ => relates_pure rfl

theorem relates_complete (strategy : Strategy) (attempts : List AttemptResult) :
    Relates worlds Eq (complete strategy attempts : Session σ (Except Failure MigrationReport))
      (complete strategy attempts) := by
  refine (relates_transition concordant _ _).then fun _ =>
    relates_get.bind fun left right related => ?_
  rw [concordant.clock related]
  exact (relates_log concordant _ _).then fun _ => relates_pure rfl

/-! ## Two engines -/

section Emitting

variable {first second : Engine}
  (emits : ∀ event, Relates worlds Eq (first.emit event : Session σ Unit) (second.emit event))
include emits

theorem relates_declined (strategy : Strategy) (position : Nat) (started : Duration)
    (reason : String) :
    Relates worlds Eq
      (first.declined strategy position started reason : Session σ AttemptResult)
      (second.declined strategy position started reason) :=
  (relates_log concordant _ _).then fun _ => (relates_transition concordant _ _).then fun _ =>
    (emits _).then fun _ => relates_conclude concordant _ _ _ _

theorem relates_undetermined (strategy : Strategy) (position : Nat) (started : Duration)
    (failure : Failure) :
    Relates worlds Eq
      (first.undetermined strategy position started failure : Session σ AttemptResult)
      (second.undetermined strategy position started failure) :=
  (relates_log concordant _ _).then fun _ => (relates_transition concordant _ _).then fun _ =>
    (emits _).then fun _ => relates_conclude concordant _ _ _ _

theorem relates_executed (strategy : Strategy) (position : Nat) (started : Duration)
    (attemptId : String) (outcome : Except Failure Unit) :
    Relates worlds Eq
      (first.executed strategy position started attemptId outcome : Session σ AttemptResult)
      (second.executed strategy position started attemptId outcome) := by
  refine (relates_takeLeftovers concordant).then fun leftovers =>
    (relates_warnLeftovers concordant strategy leftovers).then fun _ =>
      relates_get.bind fun left right related => ?_
  rw [concordant.clock related]
  cases outcome with
  | ok done => exact (emits _).then fun _ => relates_conclude concordant _ _ _ _
  | error failure =>
      exact (emits _).then fun _ => (relates_log concordant _ _).then fun _ =>
        (relates_transition concordant _ _).then fun _ => relates_conclude concordant _ _ _ _

/-- Executions are related where the strategy leads from related worlds to related worlds, which may
be in two attempts with one name. -/
theorem relates_execute {environment : Environment σ} {strategy : Strategy}
    {context other : AttemptContext} (id : context.attemptId = other.attemptId)
    (relates : (strategy.execute context).Relates environment worlds (strategy.execute other))
    (position : Nat) (started : Duration) :
    Relates worlds Eq
      (first.execute environment strategy position started context)
      (second.execute environment strategy position started other) := by
  unfold execute
  rw [id]
  exact (relates_transition concordant _ _).then fun _ => (emits _).then fun _ =>
    (relates_transition concordant _ _).then fun _ => (emits _).then fun _ =>
      (relates_follow relates).then fun outcome =>
        relates_executed concordant emits strategy position started other.attemptId outcome

end Emitting

end Concordant

section Hidden

variable {environment : Environment σ} {first second : Engine}

/-- Engines whose events are related attempt a strategy alike. -/
theorem relates_attempt (hidden : World.Hidden environment worlds)
    (emits : ∀ event, Relates worlds Eq (first.emit event : Session σ Unit) (second.emit event))
    (strategy : Strategy) (position : Nat) (context : AttemptContext) :
    Relates worlds Eq (first.attempt environment strategy position context)
      (second.attempt environment strategy position context) := by
  have concordant := hidden.toConcordant
  refine relates_get.bind fun left right related => ?_
  dsimp only
  rw [concordant.clock related]
  refine (relates_transition concordant _ _).then fun _ => (emits _).then fun _ =>
    (relates_takeLeftovers concordant).then fun _ =>
      (relates_follow (Plan.Relates.refl hidden _)).then fun answer => ?_
  rcases answer with failure | _ | reason
  · exact relates_undetermined concordant emits strategy position right.clock failure
  · exact relates_execute concordant emits rfl (Plan.Relates.refl hidden _) position right.clock
  · exact relates_declined concordant emits strategy position right.clock reason

/-- Engines whose events and contexts agree try the candidates alike. -/
theorem relates_tryCandidates (hidden : World.Hidden environment worlds)
    (emits : ∀ event, Relates worlds Eq (first.emit event : Session σ Unit) (second.emit event))
    {request : Request} {clusters : ClusterSet ClusterHandle}
    (contexts : first.context request clusters = second.context request clusters)
    (candidates : List Strategy) (attempts : List AttemptResult) :
    Relates worlds Eq (first.tryCandidates environment request clusters candidates attempts)
      (second.tryCandidates environment request clusters candidates attempts) := by
  have concordant := hidden.toConcordant
  induction candidates generalizing attempts with
  | nil => exact (relates_transition concordant _ _).then fun _ => relates_pure rfl
  | cons strategy rest ih =>
      refine relates_get.bind fun left right related => ?_
      dsimp only
      rw [concordant.cancelled related, contexts]
      split
      · exact relates_stop concordant _ attempts
      refine (relates_attempt hidden emits strategy _ _).then fun result =>
        relates_get.bind fun left right related => ?_
      rw [concordant.cancelled related]
      split
      · exact relates_complete concordant strategy _
      · split
        · exact relates_stop concordant _ _
        · exact ih _

/-- Two engines that differ only in what they do with events lead from related worlds to related
worlds, with equal results. -/
theorem relates_run (hidden : World.Hidden environment worlds)
    (emits : ∀ event, Relates worlds Eq (first.emit event : Session σ Unit) (second.emit event))
    {request : Request} {clusters : ClusterSet ClusterHandle}
    (contexts : first.context request clusters = second.context request clusters)
    (registry : first.registry = second.registry) :
    Relates worlds Eq (first.run environment request clusters)
      (second.run environment request clusters) := by
  have concordant := hidden.toConcordant
  unfold run
  rw [registry]
  cases second.registry.resolve request.strategies with
  | error fault => exact (relates_transition concordant _ _).then fun _ => relates_pure rfl
  | ok candidates =>
      exact (relates_log concordant _ _).then fun _ => (emits _).then fun _ =>
        relates_tryCandidates hidden emits contexts candidates []

end Hidden

end Engine

end VolumeMigration
