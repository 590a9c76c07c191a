import VolumeMigration.Proofs.Plan.Situations
import VolumeMigration.Proofs.Run.Record

/-!
# The stages of a run

A run goes from stage to stage as plans do: the notes that it takes between them change no
situation. `World.Leads` says this of all that lies between two worlds, and `Engine.run_leads` that
every run does so; in particular a run records every answer as the clusters gave it in some
situation (`World.Leads.answered`).
-/

namespace VolumeMigration

section Leads

variable {σ : Type} {environment : Environment σ} {before middle after : World σ}

/-- What lies between two worlds leads on from whatever stage was reached before it. -/
def World.Leads (environment : Environment σ) (before after : World σ) : Prop :=
  ∃ trace, before.Follows after trace ∧ ∀ {start : Situation σ} {made : List Exchange},
    environment.Reaches start ⟨before.situation, made⟩ →
      environment.Reaches start ⟨after.situation, made ++ exchanges trace⟩

theorem World.Leads.trans (left : before.Leads environment middle)
    (right : middle.Leads environment after) : before.Leads environment after := by
  rcases left with ⟨first, goes, reaches⟩
  rcases right with ⟨second, follows, more⟩
  refine ⟨first ++ second, goes.trans follows, ?_⟩
  intro start made reached
  rw [exchanges_append, ← List.append_assoc]
  exact more (reaches reached)

theorem World.Notes.situation_eq {steps : List RunStep} {events : List MigrationEvent}
    (notes : before.Notes after steps events) : after.situation = before.situation := by
  rw [situation, notes.clock, notes.clusters]
  rfl

theorem World.Notes.leads {steps : List RunStep} {events : List MigrationEvent}
    (notes : before.Notes after steps events) : before.Leads environment after := by
  rcases notes.noting with ⟨trace, follows, noting⟩
  refine ⟨trace, follows, ?_⟩
  intro start made reached
  rw [exchanges_of_notes noting.notes, List.append_nil, notes.situation_eq]
  exact reached

theorem leads_of_run {α : Type} {plan : Plan α} {result : Except Failure α}
    (ran : plan.run environment before = (result, after)) : before.Leads environment after := by
  rcases Engine.follows_of_run ran with ⟨trace, -, -, follows, -⟩
  have ended : (plan.run environment before).2 = after := by rw [ran]
  subst ended
  exact ⟨trace, follows, fun reached => Plan.run_reaches reached follows⟩

theorem World.Leads.answered (leads : before.Leads environment after) {exchange : Exchange}
    (exchange_mem : exchange ∈ exchanges (before.since after)) :
    ∃ situation, exchange.result =
      environment.answer exchange.cluster exchange.call situation := by
  rcases leads with ⟨trace, follows, reaches⟩
  rw [follows.since] at exchange_mem
  have reached : environment.Reaches before.situation ⟨after.situation, [] ++ exchanges trace⟩ :=
    reaches .start
  exact reached.answered exchange exchange_mem

end Leads

namespace Engine

variable {σ : Type} {engine : Engine} {environment : Environment σ} {request : Request}
  {clusters : ClusterSet ClusterHandle} {before after : World σ}

/-- The trial of a candidate leads on by answers of the environment. -/
theorem Tried.leads {strategy : Strategy} {position : Nat} {context : AttemptContext}
    {attempt : AttemptResult}
    (tried : engine.Tried environment strategy position context before attempt after) :
    before.Leads environment after := by
  cases tried with
  | declined opening cleared evaluation closing =>
      exact (opening.leads.trans (leads_of_run evaluation)).trans closing.leads
  | undetermined opening cleared evaluation closing =>
      exact (opening.leads.trans (leads_of_run evaluation)).trans closing.leads
  | executed opening cleared evaluation starting kept execution closing =>
      have judged := opening.leads.trans (leads_of_run evaluation)
      exact ((judged.trans starting.leads).trans (leads_of_run execution)).trans closing.leads

/-- A walk of candidates leads on by answers of the environment. -/
theorem Walk.leads {candidates : List Strategy} {made : List AttemptResult}
    {result : Except Failure MigrationReport}
    (walk : engine.Walk environment request clusters candidates made before result after) :
    before.Leads environment after := by
  induction walk with
  | exhausted closing => exact closing.leads
  | stoppedBefore cancelled closing => exact closing.leads
  | succeeded running trying success closing => exact trying.leads.trans closing.leads
  | stoppedAfter running trying failure interrupted closing =>
      exact trying.leads.trans closing.leads
  | next running trying failure uninterrupted stillRunning walk ih => exact trying.leads.trans ih

/-- Every answer of a run is the environment's. -/
theorem run_leads (engine : Engine) (environment : Environment σ) (request : Request)
    (clusters : ClusterSet ClusterHandle) (world : World σ) :
    world.Leads environment ((engine.run environment request clusters).run world).2 := by
  rcases resolved : engine.registry.resolve request.strategies with fault | candidates
  · exact (run_of_rejected resolved environment clusters world).2.leads
  · rcases run_walk resolved environment clusters world with ⟨opened, opening, walk⟩
    exact opening.leads.trans walk.leads

end Engine

end VolumeMigration
