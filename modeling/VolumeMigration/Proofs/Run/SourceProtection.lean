import VolumeMigration.Proofs.Cluster.Directory
import VolumeMigration.Proofs.Run.Teardown
import VolumeMigration.Proofs.Strategy.Pods
import VolumeMigration.Proofs.Transfer.WriteAccess

/-!
# Runs spare the source

Every call of a run is a probe or belongs to the execution of a candidate that applied
(`Engine.run_call`), and a pod that such an execution creates may write to the destination at most
(`PodOf.writes_destination`). So a run may write to the source only if that is the destination as
well: nothing refuses a request to copy a volume to itself.
-/

namespace VolumeMigration

/-! ## Where they may write -/

/-- A pod of a cluster may write to a volume. -/
structure MayWrite (clusters : ClusterSet ClusterHandle) (volume : VolumeLocator)
    (cluster : ClusterHandle) (pod : Pod) : Prop where
  cluster : clusters.get volume.access = .ok cluster
  ns : pod.metadata.ns = some volume.ns
  claim : volume.name ∈ pod.writableClaims

/-- Mount-both applies only where one pod can mount both volumes. -/
theorem MountBoth.sameNamespace_of_applicable {context : AttemptContext} {cancelled : Bool}
    {trace : List Occurrence} {leftovers : List String}
    (course : (MountBoth.applicable context).Course cancelled trace leftovers (.ok .applicable)) :
    context.request.source.SameNamespace context.request.destination := by
  unfold MountBoth.applicable at course
  dsimp only at course
  split at course
  · cases (Plan.course_done_iff.mp course).2.2
  · split at course
    · cases (Plan.course_done_iff.mp course).2.2
    next together => exact not_not.mp together

/-- The pod of a strategy that applies may write to no volume but the destination. -/
theorem PodOf.writes_destination {context : AttemptContext} {strategy : Strategy}
    {cluster : ClusterHandle} {pod : Pod} (created : PodOf context strategy cluster pod)
    {cancelled : Bool} {trace : List Occurrence} {leftovers : List String}
    (applies : (strategy.applicable context).Course cancelled trace leftovers (.ok .applicable))
    {claim : String} (writable : claim ∈ pod.writableClaims) :
    context.destinationCluster = .ok cluster ∧
      pod.metadata.ns = some context.request.destination.ns ∧
      claim = context.request.destination.name := by
  cases created with
  | mountBoth found node =>
      -- the pod stands beside the source, which is beside the destination as well
      have together := MountBoth.sameNamespace_of_applicable applies
      have named : claim = (MountBoth.pod context node).destinationClaim := by
        simpa [MountBothPod.writableClaims_toPod] using writable
      refine ⟨ClusterSet.get_of_same together.1 found, ?_, named⟩
      rw [← together.2]
      rfl
  | relay exposure found node =>
      have named : claim = (Tunnel.relayPod context node).destinationClaim := by
        simpa [SshdPod.writableClaims_toPod] using writable
      exact ⟨found, rfl, named⟩
  | copier exposure found node host =>
      rw [RsyncPod.writableClaims_toPod] at writable
      cases writable

/-! ## Runs -/

namespace Engine

variable {σ : Type}

/-- A call belongs to the execution of a strategy that applied. -/
structure ExecutionCall (strategy : Strategy) (context : AttemptContext) (exchange : Exchange) :
    Prop where
  applies : ∃ cancelled trace leftovers,
    (strategy.applicable context).Course cancelled trace leftovers (.ok .applicable)
  executes : ∃ cancelled trace leftovers outcome,
    (strategy.execute context).Course cancelled trace leftovers outcome ∧
      exchange ∈ exchanges trace

/-- A call of a trial is a probe, or belongs to the execution of its strategy. -/
theorem Recorded.call {environment : Environment σ} {strategy : Strategy} {position : Nat}
    {context : AttemptContext} {before after : World σ} {attempt : AttemptResult}
    {trace : List Occurrence}
    (recorded : Recorded environment strategy position context before attempt after trace)
    (probing : (strategy.applicable context).Within Call.isProbe) {exchange : Exchange}
    (exchange_mem : exchange ∈ exchanges trace) :
    exchange.call.isProbe = true ∨ ExecutionCall strategy context exchange := by
  cases recorded with
  | unexecuted evaluated closes noting =>
      rw [exchanges_append, exchanges_append, exchanges_of_notes evaluated.noting.notes,
        exchanges_of_notes noting.notes, List.nil_append, List.append_nil] at exchange_mem
      rcases evaluated.course with ⟨_, _, course, -, -⟩
      exact .inl ((course.within probing).2 exchange exchange_mem)
  | executed evaluated executed closes noting =>
      rw [exchanges_append, exchanges_append, exchanges_append, exchanges_append,
        exchanges_of_notes evaluated.noting.notes, exchanges_of_notes executed.noting.notes,
        exchanges_of_notes noting.notes, List.nil_append, List.nil_append, List.append_nil,
        List.mem_append] at exchange_mem
      rcases evaluated.course with ⟨cancelled, leftovers, course, -, -⟩
      rcases exchange_mem with evaluating | executing
      · exact .inl ((course.within probing).2 exchange evaluating)
      · rcases executed.course with ⟨outcome, noted, execution, -⟩
        exact .inr ⟨⟨_, _, _, course⟩, ⟨_, _, _, _, execution, executing⟩⟩

/-- A call of linked trials is a probe, or belongs to the execution of one of their strategies. -/
theorem Trials.call {engine : Engine} {environment : Environment σ} {request : Request}
    {clusters : ClusterSet ClusterHandle} {position : Nat} {world last : World σ}
    {trials : List (Trial σ)}
    (linked : engine.Trials environment request clusters position world trials last)
    (probing : ∀ trial ∈ trials, ∀ context,
      (trial.strategy.applicable context).Within Call.isProbe) :
    ∃ trace, world.Follows last trace ∧ ∀ exchange ∈ exchanges trace,
      exchange.call.isProbe = true ∨ ∃ trial ∈ trials, ∃ position,
        ExecutionCall trial.strategy (engine.context request clusters position) exchange := by
  induction linked with
  | nil position world => exact ⟨[], .refl world, by simp⟩
  | @cons position trial rest last tried more ih =>
      rw [List.forall_mem_cons] at probing
      rcases tried.recorded with ⟨trace, recorded⟩
      rcases ih probing.2 with ⟨later, follows, called⟩
      refine ⟨trace ++ later, recorded.follows.trans follows, ?_⟩
      intro exchange exchange_mem
      rw [exchanges_append, List.mem_append] at exchange_mem
      rcases exchange_mem with here | there
      · rcases recorded.call (probing.1 _) here with probe | call
        · exact .inl probe
        · exact .inr ⟨trial, List.mem_cons_self, position, call⟩
      · rcases called exchange there with probe | ⟨other, other_mem, call⟩
        · exact .inl probe
        · exact .inr ⟨other, List.mem_cons_of_mem _ other_mem, call⟩

section Run

variable {engine : Engine} {request : Request} {candidates : List Strategy}

/-- A call of a run is a probe, or belongs to the execution of one of the candidates. -/
theorem run_call (resolved : engine.registry.resolve request.strategies = .ok candidates)
    (probing : ∀ strategy ∈ candidates, ∀ context,
      (strategy.applicable context).Within Call.isProbe)
    (environment : Environment σ) (clusters : ClusterSet ClusterHandle) (world : World σ)
    {exchange : Exchange}
    (exchange_mem : exchange ∈
      exchanges (world.since ((engine.run environment request clusters).run world).2)) :
    exchange.call.isProbe = true ∨ ∃ strategy ∈ candidates, ∃ position,
      ExecutionCall strategy (engine.context request clusters position) exchange := by
  rcases run_course resolved environment clusters world with
    ⟨trials, opening, closing, course, -, -, -⟩
  rcases course.linked with ⟨opened, closed, opens, linked, closes⟩
  rcases course.told with ⟨_, told, -⟩
  have candidate {trial : Trial σ} (trial_mem : trial ∈ trials) : trial.strategy ∈ candidates :=
    course.inOrder.subset (List.mem_map_of_mem trial_mem)
  rcases linked.call fun trial trial_mem => probing _ (candidate trial_mem) with
    ⟨trace, follows, called⟩
  rw [((opens.trans follows).trans closes).since, exchanges_append, exchanges_append,
    exchanges_of_notes course.noting.notes, exchanges_of_notes told.notes, List.nil_append,
    List.append_nil] at exchange_mem
  rcases called exchange exchange_mem with probe | ⟨trial, trial_mem, position, call⟩
  · exact .inl probe
  · exact .inr ⟨trial.strategy, candidate trial_mem, position, call⟩

/-- No run whose candidates are strategies of this library creates a pod that may write to the
source, unless the destination is the same claim of the same cluster. -/
theorem run_sparesSource (resolved : engine.registry.resolve request.strategies = .ok candidates)
    (builtin : ∀ strategy ∈ candidates, strategy ∈ StrategyRegistry.builtin.strategies)
    (environment : Environment σ) (clusters : ClusterSet ClusterHandle) (world : World σ)
    (apart : ¬(clusters.get request.destination.access = clusters.get request.source.access ∧
      request.destination.ns = request.source.ns ∧
      request.destination.name = request.source.name))
    {cluster : ClusterHandle} {pod : Pod} {result : Except Failure ResourceRef}
    (created : ⟨cluster, .create (.pod pod), result⟩ ∈
      exchanges (world.since ((engine.run environment request clusters).run world).2)) :
    ¬MayWrite clusters request.source cluster pod := by
  intro writes
  apply apart
  rcases run_call resolved (StrategyRegistry.within_applicable builtin) environment clusters world
    created with probe | ⟨strategy, candidate, position, call⟩
  · cases probe
  rcases call.applies with ⟨_, _, _, applies⟩
  rcases call.executes with ⟨_, _, _, _, course, created_there⟩
  rcases Transfers.of_builtin (builtin strategy candidate) with ⟨transfer, transfers⟩
  have podOf := transfers.podOf_course course created_there
  rcases podOf.writes_destination applies writes.claim with ⟨found, ns, name⟩
  refine ⟨found.trans writes.cluster.symm, ?_, name.symm⟩
  exact Option.some.inj (ns.symm.trans writes.ns)

end Run

end Engine

namespace Quiet

/-- A request to copy a claim to itself. -/
def circular : Request :=
  { request with destination := request.source }

/-- What the first attempt at a request creates in the quiet clusters. -/
def firstPod (request : Request) : Pod :=
  (MountBoth.pod (engine.context request clusters 0) none).toPod

/-- The calls of a run in the quiet clusters. -/
def callsFor (request : Request) : List Exchange :=
  exchanges ((World.start ()).since
    ((engine.run environment request clusters).run (World.start ())).2)

theorem creates_firstPod : (⟨0⟩, .pod (firstPod request)) ∈ requests (callsFor request) := by
  decide +kernel

theorem creates_firstPod_circular :
    (⟨0⟩, .pod (firstPod circular)) ∈ requests (callsFor circular) := by
  decide +kernel

end Quiet

namespace Engine

theorem run_sparesSource_quiet :
    ∃ result, ⟨⟨0⟩, .create (.pod (Quiet.firstPod Quiet.request)), result⟩ ∈
        Quiet.callsFor Quiet.request ∧
      ¬MayWrite Quiet.clusters Quiet.request.source ⟨0⟩ (Quiet.firstPod Quiet.request) := by
  rcases exists_of_request Quiet.creates_firstPod with ⟨result, created⟩
  refine ⟨result, created, ?_⟩
  exact run_sparesSource Quiet.resolved (fun _ strategy_mem => strategy_mem) Quiet.environment
    Quiet.clusters (World.start ()) (by decide) created

/-- A request to copy a claim to itself is not refused, and its pod may write to the source. -/
theorem run_writesSource_circular :
    Quiet.engine.registry.resolve Quiet.circular.strategies =
        .ok StrategyRegistry.builtin.strategies ∧
      ∃ result, ⟨⟨0⟩, .create (.pod (Quiet.firstPod Quiet.circular)), result⟩ ∈
          Quiet.callsFor Quiet.circular ∧
        MayWrite Quiet.clusters Quiet.circular.source ⟨0⟩ (Quiet.firstPod Quiet.circular) := by
  refine ⟨rfl, ?_⟩
  rcases exists_of_request Quiet.creates_firstPod_circular with ⟨result, created⟩
  have writable : Quiet.circular.source.name ∈ (Quiet.firstPod Quiet.circular).writableClaims :=
    List.mem_cons_self
  exact ⟨result, created, by decide, rfl, writable⟩

end Engine

end VolumeMigration
