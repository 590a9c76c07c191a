import VolumeMigration.Proofs.Run.Publishing
import VolumeMigration.Proofs.Run.Scenario
import VolumeMigration.Proofs.Strategy.Secrecy

/-!
# The private key stays private

Two executions through a relay that differ only in the private key cannot be told apart by anyone
who does not see into secrets: they end in the same way, with the same events and the same calls,
and of all that they create one entry of one secret differs (`Engine.execute_keepsKey`).
-/

namespace VolumeMigration

section Twins

variable {σ : Type} {alike : σ → σ → Prop} {differing : Differing} {environment : Environment σ}
  {left right : World σ}

/-- Twins agree on whatever is read off their histories without looking into secrets. -/
theorem World.Twin.filterMap {α : Type} (twin : left.Twin alike differing right)
    {view : Occurrence → Option α}
    (covered : ∀ {occurrence other}, Occurrence.SameBut differing occurrence other →
      view occurrence = view other) :
    left.history.toList.filterMap view = right.history.toList.filterMap view := by
  have related := twin.history
  generalize left.history.toList = occurrences at related ⊢
  generalize right.history.toList = others at related ⊢
  induction related with
  | nil => rfl
  | cons same _ ih => rw [List.filterMap_cons, List.filterMap_cons, covered same, ih]

theorem World.Twin.events (twin : left.Twin alike differing right) :
    left.events = right.events := by
  rw [events_eq, events_eq]
  apply twin.filterMap
  intro occurrence other same
  cases same <;> rfl

theorem World.Twin.logAll (twin : left.Twin alike differing right) (entries : List LogRecord) :
    (entries.foldl World.log left).Twin alike differing (entries.foldl World.log right) := by
  induction entries generalizing left right with
  | nil => exact twin
  | cons entry rest ih => exact ih (twin.record (.same (.logged entry)))

namespace Engine

/-- A publisher sees events and how many there were before, nothing else. -/
theorem twins_emit (engine : Engine) (event : Instant → MigrationEvent) :
    Relates (World.Twin alike differing) Eq (engine.emit event : Session σ Unit)
      (engine.emit event) := by
  intro left right twin
  refine ⟨rfl, ?_⟩
  change (afterEvent engine.publisher (event (engine.timeIn left)) left).Twin alike differing
    (afterEvent engine.publisher (event (engine.timeIn right)) right)
  have times : engine.timeIn left = engine.timeIn right := by
    rw [timeIn, timeIn, twin.clock]
  unfold afterEvent
  rw [times, twin.events]
  have told := (twin.record (.same (.emitted (event (engine.timeIn right))
    (engine.publisher right.events.length (event (engine.timeIn right))).failure.isNone))).logAll
      (engine.publisher right.events.length (event (engine.timeIn right))).records
  dsimp only
  split
  · exact told
  · exact told.record (.same _)

/-- An execution through a relay asks for no object twice. -/
theorem nodup_requests_execute (engine : Engine) (exposure : Exposure) (position : Nat)
    (started : Duration) (context : AttemptContext) (world : World σ) :
    (requests (exchanges (world.since ((engine.execute environment (Tunnel.strategy exposure)
      position started context).run world).2))).Nodup := by
  rcases engine.execute_run environment (Tunnel.strategy exposure) position started context world
    with ⟨starting, opening, -, run_eq⟩
  rcases Plan.run_course environment ((Tunnel.strategy exposure).execute context) starting with
    ⟨trace, _, -, follows, -⟩
  rcases engine.executed_run (Tunnel.strategy exposure) position started context.attemptId
    (((Tunnel.strategy exposure).execute context).run environment starting).1
    (((Tunnel.strategy exposure).execute context).run environment starting).2 with
    ⟨after, executed_run, closing⟩
  rcases opening.follows with ⟨first, opens, first_notes, -⟩
  rcases closing.follows with ⟨last, closes, last_notes, -⟩
  -- the notes before and after the execution are no calls
  have nodup := Tunnel.nodup_requests exposure context environment starting
  rw [Tunnel.callsOf, follows.since] at nodup
  rw [run_eq, executed_run, ((opens.trans follows).trans closes).since, exchanges_append,
    exchanges_append, exchanges_of_notes first_notes, exchanges_of_notes last_notes,
    List.nil_append, List.append_nil]
  exact nodup

/-- Two executions through a relay that differ only in the private key that was drawn end with the
same attempt after the same events. They make the same calls and ask for no object twice, and the
one thing that differs is the entry of the private key in the secret for it, in the cluster and the
namespace of the source. -/
theorem execute_keepsKey (blind : environment.Blind alike) (engine : Engine) (exposure : Exposure)
    (position : Nat) (started : Duration) (context : AttemptContext) (privateKey : String)
    (world : World σ) :
    let execution := fun drawn : AttemptContext =>
      (engine.execute environment (Tunnel.strategy exposure) position started drawn).run world
    let first := execution context
    let second := execution (context.withPrivateKey privateKey)
    first.1 = second.1 ∧ first.2.events = second.2.events ∧
      first.2.clock = second.2.clock ∧ first.2.cancelled = second.2.cancelled ∧
      List.Forall₂ (Occurrence.SameBut (Tunnel.KeyDiffers context privateKey))
        (world.since first.2) (world.since second.2) ∧
      (requests (exchanges (world.since first.2))).Nodup := by
  intro execution first second
  have id : context.attemptId = (context.withPrivateKey privateKey).attemptId := rfl
  rcases relates_execute World.Twin.concordant (twins_emit engine) id
    (Tunnel.relates_execute blind exposure context privateKey) position started
    (World.Twin.refl blind world) with
    ⟨same, twin⟩
  exact ⟨same, twin.events, twin.clock, twin.cancelled, List.forall₂_drop _ twin.history,
    nodup_requests_execute engine exposure position started context world⟩

end Engine

end Twins

namespace Quiet

/-- Clusters in which every call succeeds and which keep the objects that they created. -/
def keeping : Environment (List ClusterObject) :=
  { respond := fun _ call _ kept =>
      ({ result := .ok (serve call), cancels := false },
        match call with
        | .create object => object :: kept
        | _ => kept)
    cancelTime := none }

theorem keeping_blind : keeping.Blind fun _ _ => True := by
  constructor
  · intro kept
    trivial
  · intro cluster call time left right _
    exact ⟨rfl, trivial⟩
  · intro cluster time secret other left right contents _
    have served : (serve (.create (.secret secret)) : ResourceRef) =
        serve (.create (.secret other)) := by
      change ResourceRef.mk .secret (secret.metadata.ns.getD "") (partOf (.secret secret)) =
        .mk .secret (other.metadata.ns.getD "") (partOf (.secret other))
      unfold partOf
      dsimp only [ClusterObject.metadata]
      rw [contents.metadata]
    exact ⟨congrArg (fun created => (Except.ok created, false)) served, trivial⟩

end Quiet

/-- Clusters that keep secrets do not let the key show, though it reaches them. -/
theorem Engine.execute_keepsKey_keeping :
    let context := Quiet.engine.context Quiet.request Quiet.clusters 0
    let execution := fun drawn : AttemptContext =>
      (Quiet.engine.execute Quiet.keeping rsyncInCluster 0 0 drawn).run (World.start [])
    Quiet.keeping.Blind (fun _ _ => True) ∧
      (execution context).1 = (execution (context.withPrivateKey "key")).1 ∧
      .secret (Tunnel.keySecret context) ∈ (execution context).2.clusters := by
  intro context execution
  refine ⟨Quiet.keeping_blind, ?_, by decide +kernel⟩
  exact (Engine.execute_keepsKey Quiet.keeping_blind Quiet.engine .clusterIp 0 0 context "key"
    (World.start [])).1

end VolumeMigration
