import VolumeMigration.Proofs.Run.Scenario
import VolumeMigration.Proofs.Run.Stages
import VolumeMigration.Proofs.Run.Teardown
import VolumeMigration.Proofs.Strategy.Favourable

/-!
# The strategy that the topology calls for

When all strategies of this library may be used and the conditions are favourable
(`AttemptContext.Favoured`), a run ends well with the first strategy that the places of the two
volumes allow (`Engine.PicksByTopology`): one pod if it can mount both, a relay inside the cluster
if they share one, and a load balancer otherwise. The strategies before it do not apply and create
nothing.
-/

namespace VolumeMigration

section Scenes

variable {σ : Type} {scene : Scene σ} {before opened ended final : World σ}
  {made : List Exchange} {trace : List Occurrence} {steps : List RunStep}
  {events : List MigrationEvent}

theorem Scene.Underway.noted (underway : scene.Underway before made)
    (notes : before.Notes opened steps events) : scene.Underway opened made := by
  refine ⟨notes.cancelled.trans underway.running, ?_⟩
  rw [notes.situation_eq]
  exact underway.reached

/-- A plan that is followed after some notes ends well, and the record goes on after it. -/
theorem Plan.Achieves.followed {α : Type} {plan : Plan α} {after : α → Stage σ → Prop}
    {result : Except Failure α} (achieves : plan.Achieves scene (fun _ => True) after)
    (underway : scene.Underway before made) (notes : before.Notes opened steps events)
    (ran : plan.run scene.environment opened = (result, ended))
    (rest : ended.Leads scene.environment final) (continues : scene.Continues made trace)
    (whole : before.Follows final trace) :
    ∃ value stage more late, result = .ok value ∧ after value stage ∧
      scene.Underway ended (made ++ more) ∧ scene.Continues (made ++ more) late ∧
      ended.Follows final late := by
  rcases notes.noting with ⟨told, opens, noting⟩
  rcases Engine.follows_of_run ran with ⟨work, -, -, runs, -⟩
  rcases rest with ⟨late, goes, -⟩
  rcases continues.parts whole opens (runs.trans goes) with ⟨-, working⟩
  rw [exchanges_of_notes noting.notes, List.append_nil] at working
  have begun := underway.noted notes
  have follows : opened.Follows (plan.run scene.environment opened).2 work := by
    rwa [ran]
  rcases achieves begun trivial working.left follows with ⟨value, succeeded, holds⟩
  have still := begun.after working.left follows
  rw [ran] at succeeded still
  exact ⟨value, _, exchanges work, late, succeeded, holds, still, working.right, goes⟩

end Scenes

namespace Engine

variable {σ : Type} {engine : Engine} {request : Request} {clusters : ClusterSet ClusterHandle}

/-! ## Walks -/

section Walks

variable {scene : Scene σ}

section Tried

variable {strategy : Strategy} {position : Nat} {context : AttemptContext}
  {before after : World σ} {attempt : AttemptResult} {made : List Exchange}
  {trace : List Occurrence}

/-- A candidate whose evaluation declines in the scene is not applicable. -/
theorem Tried.declines
    (tried : engine.Tried scene.environment strategy position context before attempt after)
    (underway : scene.Underway before made) (continues : scene.Continues made trace)
    (whole : before.Follows after trace)
    (declines : (strategy.applicable context).Achieves scene (fun _ => True) fun answer _ =>
      answer ≠ .applicable) :
    ∃ reason, attempt.outcome = .notApplicable reason := by
  cases tried with
  | declined => exact ⟨_, rfl⟩
  | undetermined opening cleared evaluation closing =>
      rcases declines.followed underway opening evaluation closing.leads continues whole with
        ⟨answer, _, _, _, impossible, -⟩
      cases impossible
  | executed opening cleared evaluation starting kept execution closing =>
      have rest := (starting.leads.trans (leads_of_run execution)).trans closing.leads
      rcases declines.followed underway opening evaluation rest continues whole with
        ⟨answer, _, _, _, same, other, -⟩
      cases same
      exact absurd rfl other

/-- A candidate that applies and whose execution achieves its end in the scene succeeds. -/
theorem Tried.succeeds
    (tried : engine.Tried scene.environment strategy position context before attempt after)
    (underway : scene.Underway before made) (continues : scene.Continues made trace)
    (whole : before.Follows after trace)
    (applies : (strategy.applicable context).Achieves scene (fun _ => True) fun answer _ =>
      answer = .applicable)
    (achieves : (strategy.execute context).Achieves scene (fun _ => True) fun _ _ => True) :
    attempt.outcome = .succeeded := by
  cases tried with
  | declined opening cleared evaluation closing =>
      rcases applies.followed underway opening evaluation closing.leads continues whole with
        ⟨answer, _, _, _, same, rfl, -⟩
      cases same
  | undetermined opening cleared evaluation closing =>
      rcases applies.followed underway opening evaluation closing.leads continues whole with
        ⟨answer, _, _, _, impossible, -⟩
      cases impossible
  | executed opening cleared evaluation starting kept execution closing =>
      have rest := (starting.leads.trans (leads_of_run execution)).trans closing.leads
      rcases applies.followed underway opening evaluation rest continues whole with
        ⟨_, _, _, _, -, -, evaluated, goes, follows⟩
      rcases achieves.followed evaluated starting execution closing.leads goes follows with
        ⟨_, _, _, _, rfl, -⟩
      rfl

end Tried

/-- A walk that is not cancelled tries its first candidate: that succeeds and ends the walk, or it
does not and was interrupted, or the walk goes on to the others. -/
theorem Walk.first {environment : Environment σ} {strategy : Strategy} {rest : List Strategy}
    {attempts : List AttemptResult} {before final : World σ}
    {result : Except Failure MigrationReport}
    (walk : engine.Walk environment request clusters (strategy :: rest) attempts before result
      final) (running : before.cancelled = false) :
    ∃ attempt tried, engine.Tried environment strategy attempts.length
        (engine.context request clusters attempts.length) before attempt tried ∧
      tried.Leads environment final ∧
      ((attempt.outcome = .succeeded ∧
          ∃ elapsed, result = .ok ⟨strategy.name, attempts ++ [attempt], elapsed⟩) ∨
        (attempt.outcome ≠ .succeeded ∧
          (wasCancelled attempt = true ∨ tried.cancelled = true)) ∨
        (attempt.outcome ≠ .succeeded ∧
          engine.Walk environment request clusters rest (attempts ++ [attempt]) tried result
            final)) := by
  cases walk with
  | stoppedBefore cancelled closing =>
      rw [running] at cancelled
      cases cancelled
  | succeeded _ trying success closing =>
      exact ⟨_, _, trying, closing.leads, .inl ⟨success, _, rfl⟩⟩
  | stoppedAfter _ trying failure interrupted closing =>
      exact ⟨_, _, trying, closing.leads, .inr (.inl ⟨failure, interrupted⟩)⟩
  | next _ trying failure uninterrupted stillRunning walk =>
      exact ⟨_, _, trying, walk.leads, .inr (.inr ⟨failure, walk⟩)⟩

section Candidates

variable {strategy : Strategy} {rest : List Strategy} {attempts : List AttemptResult}
  {before final : World σ} {made : List Exchange} {trace : List Occurrence}
  {result : Except Failure MigrationReport}

/-- A walk ends well with a candidate that applies and whose execution ends well. -/
theorem Walk.endsWell
    (walk : engine.Walk scene.environment request clusters (strategy :: rest) attempts before
      result final)
    (underway : scene.Underway before made) (continues : scene.Continues made trace)
    (whole : before.Follows final trace)
    (applies : (strategy.applicable
      (engine.context request clusters attempts.length)).Achieves scene
        (fun _ => True) fun answer _ => answer = .applicable)
    (achieves : (strategy.execute
      (engine.context request clusters attempts.length)).Achieves scene
        (fun _ => True) fun _ _ => True) :
    ∃ attempt elapsed, result = .ok ⟨strategy.name, attempts ++ [attempt], elapsed⟩ := by
  rcases walk.first underway.running with ⟨attempt, tried, trying, remains, ending⟩
  rcases trying.leads with ⟨early, follows, -⟩
  rcases remains with ⟨late, goes, -⟩
  rcases continues.parts whole follows goes with ⟨now, -⟩
  have succeeded := trying.succeeds underway now follows applies achieves
  rcases ending with ⟨-, elapsed, result_eq⟩ | ⟨failure, -⟩ | ⟨failure, -⟩
  · exact ⟨attempt, elapsed, result_eq⟩
  · exact absurd succeeded failure
  · exact absurd succeeded failure

/-- A walk goes on after a candidate that does not apply. -/
theorem Walk.passesOver
    (walk : engine.Walk scene.environment request clusters (strategy :: rest) attempts before
      result final)
    (underway : scene.Underway before made) (continues : scene.Continues made trace)
    (whole : before.Follows final trace)
    (declines : (strategy.applicable
      (engine.context request clusters attempts.length)).Achieves scene
        (fun _ => True) fun answer _ => answer ≠ .applicable) :
    ∃ attempt tried more late, (∃ reason, attempt.outcome = .notApplicable reason) ∧
      scene.Underway tried more ∧ scene.Continues more late ∧ tried.Follows final late ∧
      engine.Walk scene.environment request clusters rest (attempts ++ [attempt]) tried result
        final := by
  rcases walk.first underway.running with ⟨attempt, tried, trying, remains, ending⟩
  rcases trying.leads with ⟨early, follows, reaches⟩
  rcases remains with ⟨late, goes, -⟩
  rcases continues.parts whole follows goes with ⟨now, later⟩
  rcases trying.declines underway now follows declines with ⟨reason, outcome_eq⟩
  have still : scene.Underway tried (made ++ exchanges early) :=
    ⟨now.running underway.running follows, reaches underway.reached⟩
  rcases ending with ⟨success, -⟩ | ⟨-, interrupted⟩ | ⟨-, walk⟩
  · rw [outcome_eq] at success
    cases success
  · -- an attempt that does not apply interrupts nothing
    simp [wasCancelled, outcome_eq, still.running] at interrupted
  · exact ⟨attempt, tried, _, late, ⟨reason, outcome_eq⟩, still, later, goes, walk⟩

end Candidates

/-- A walk ends well with the first candidate that applies, if those before it do not apply and its
execution ends well. -/
theorem Walk.picks {passed rest : List Strategy} {strategy : Strategy}
    (declines : ∀ other ∈ passed, ∀ position,
      (other.applicable (engine.context request clusters position)).Achieves scene
        (fun _ => True) fun answer _ => answer ≠ .applicable)
    (applies : ∀ position,
      (strategy.applicable (engine.context request clusters position)).Achieves scene
        (fun _ => True) fun answer _ => answer = .applicable)
    (achieves : ∀ position,
      (strategy.execute (engine.context request clusters position)).Achieves scene
        (fun _ => True) fun _ _ => True)
    {attempts : List AttemptResult} {before final : World σ} {made : List Exchange}
    {trace : List Occurrence} {result : Except Failure MigrationReport}
    (walk : engine.Walk scene.environment request clusters (passed ++ strategy :: rest) attempts
      before result final)
    (underway : scene.Underway before made) (continues : scene.Continues made trace)
    (whole : before.Follows final trace) :
    ∃ report declined last, result = .ok report ∧ report.strategy = strategy.name ∧
      report.attempts = attempts ++ declined ++ [last] ∧ declined.length = passed.length ∧
      ∀ attempt ∈ declined, ∃ reason, attempt.outcome = .notApplicable reason := by
  induction passed generalizing attempts before made trace with
  | nil =>
      rcases walk.endsWell underway continues whole (applies _) (achieves _) with
        ⟨attempt, elapsed, rfl⟩
      exact ⟨_, [], attempt, rfl, rfl, by simp, rfl, by simp⟩
  | cons other passed ih =>
      have others : ∀ another ∈ passed, _ := fun another another_mem =>
        declines another (List.mem_cons_of_mem _ another_mem)
      rcases Walk.passesOver walk underway continues whole
        (declines other List.mem_cons_self _) with
        ⟨attempt, tried, _, _, refused, still, later, goes, walk⟩
      rcases ih others walk still later goes with
        ⟨report, declined, last, rfl, named, told, length_eq, all⟩
      refine ⟨report, attempt :: declined, last, rfl, named, ?_, by simp [length_eq], ?_⟩
      · rw [told]
        simp
      · exact List.forall_mem_cons.mpr ⟨refused, all⟩

end Walks

/-! ## Runs -/

/-- The scene of a run: the clusters as it finds them, and all that it asks. -/
def scene (engine : Engine) (environment : Environment σ) (request : Request)
    (clusters : ClusterSet ClusterHandle) (world : World σ) : Scene σ :=
  { environment
    start := world.situation
    record :=
      exchanges (world.since ((engine.run environment request clusters).run world).2) }

theorem record_scene (engine : Engine) (environment : Environment σ) (request : Request)
    (clusters : ClusterSet ClusterHandle) (world : World σ) :
    (engine.scene environment request clusters world).record =
      exchanges (world.since ((engine.run environment request clusters).run world).2) :=
  rfl

/-- A report names a strategy, and tells of some before it that did not apply. Nothing was created
but in the execution of that strategy. -/
structure Picked (chronicle : List Moment) (strategy : Strategy) (passed : Nat)
    (report : MigrationReport) : Prop where
  named : report.strategy = strategy.name
  attempted : report.attempts.length = passed + 1
  declined : ∀ attempt ∈ report.attempts.dropLast, ∃ reason,
    attempt.outcome = .notApplicable reason
  created : ∀ call ∈ calls chronicle, call.2.call.isCreate = true → call.1 = .executing passed

section Run

variable {environment : Environment σ} {candidates : List Strategy} {world : World σ}

/-- A run that reports one success after refusals creates nothing before the last candidate. -/
theorem run_creates_last
    (resolved : engine.registry.resolve request.strategies = .ok candidates)
    (probing : ∀ strategy ∈ candidates, ∀ context,
      (strategy.applicable context).Within Call.isProbe)
    {report : MigrationReport}
    (reported : ((engine.run environment request clusters).run world).1 = .ok report)
    {declined : List AttemptResult} {last : AttemptResult}
    (told : report.attempts = declined ++ [last])
    (all : ∀ attempt ∈ declined, ∃ reason, attempt.outcome = .notApplicable reason) :
    ∀ call ∈ calls (engine.chronicle environment request clusters world),
      call.2.call.isCreate = true → call.1 = .executing declined.length := by
  intro call call_mem creates
  rcases (run_calls resolved probing environment clusters world).1 call call_mem with
    ⟨position, ⟨-, probe⟩ | executing⟩
  · rw [Call.isCreate_of_isProbe probe] at creates
    cases creates
  · rcases mem_calls.mp call_mem with ⟨moment, moment_mem, state_eq, -⟩
    rcases run_executedAt resolved probing environment clusters world moment_mem
      (state_eq.trans executing) with ⟨_, attempt, _, _, _, -, attempt_at, executed⟩
    rw [reported, attemptsOf, told] at attempt_at
    rcases executed.executed with ⟨outcome, -, outcome_eq⟩
    rcases Nat.lt_trichotomy position declined.length with early | rfl | late
    · -- what did not apply was not executed
      rw [List.getElem?_append_left early] at attempt_at
      rcases all attempt (List.mem_of_getElem? attempt_at) with ⟨reason, same⟩
      rw [same] at outcome_eq
      rcases outcome with failure | done <;> cases outcome_eq
    · exact executing
    · have bound := (List.getElem?_eq_some_iff.mp attempt_at).1
      rw [List.length_append, List.length_singleton] at bound
      omega

/-- A run whose candidates decline up to one that applies and achieves its end picks that one. -/
theorem run_picks {passed rest : List Strategy} {strategy : Strategy}
    (resolved : engine.registry.resolve request.strategies = .ok (passed ++ strategy :: rest))
    (probing : ∀ other ∈ passed ++ strategy :: rest, ∀ context,
      (other.applicable context).Within Call.isProbe)
    (running : world.cancelled = false)
    (uncancelled : .cancellation ∉
      world.since ((engine.run environment request clusters).run world).2)
    (declines : ∀ other ∈ passed, ∀ position,
      (other.applicable (engine.context request clusters position)).Achieves
        (engine.scene environment request clusters world) (fun _ => True)
        fun answer _ => answer ≠ .applicable)
    (applies : ∀ position,
      (strategy.applicable (engine.context request clusters position)).Achieves
        (engine.scene environment request clusters world) (fun _ => True)
        fun answer _ => answer = .applicable)
    (achieves : ∀ position,
      (strategy.execute (engine.context request clusters position)).Achieves
        (engine.scene environment request clusters world) (fun _ => True) fun _ _ => True) :
    ∃ report, ((engine.run environment request clusters).run world).1 = .ok report ∧
      Picked (engine.chronicle environment request clusters world) strategy passed.length
        report := by
  rcases run_walk resolved environment clusters world with ⟨opened, opening, walk⟩
  rcases opening.noting with ⟨first, opens, noting⟩
  rcases walk.leads with ⟨trace, goes, -⟩
  have whole := (opens.trans goes).since
  have underway : (engine.scene environment request clusters world).Underway world [] :=
    ⟨running, .start⟩
  rw [whole, List.mem_append, not_or] at uncancelled
  have continues : (engine.scene environment request clusters world).Continues [] trace := by
    refine ⟨uncancelled.2, ?_⟩
    simp [record_scene, whole, exchanges_of_notes noting.notes]
  rcases walk.picks declines applies achieves (underway.noted opening) continues goes with
    ⟨report, declined, last, reported, named, told, length_eq, all⟩
  rw [List.nil_append] at told
  refine ⟨report, reported, named, ?_, ?_, ?_⟩
  · rw [told, List.length_append, length_eq]
    rfl
  · rw [told, List.dropLast_concat]
    exact all
  · rw [← length_eq]
    exact run_creates_last resolved probing reported told all

end Run

/-- A report tells of the first strategy that the places of the volumes allow. -/
structure PicksByTopology (request : Request) (source destination : VolumeAnswers)
    (chronicle : List Moment) (report : MigrationReport) : Prop where
  onePod : report.strategy = MountBoth.name ∧ report.attempts.length = 1 ↔
    CoMountable request source destination
  inCluster : report.strategy = Tunnel.inClusterName ∧ report.attempts.length = 2 ↔
    request.source.SameCluster request.destination ∧ ¬CoMountable request source destination
  crossCluster : report.strategy = Tunnel.crossClusterName ∧ report.attempts.length = 3 ↔
    ¬request.source.SameCluster request.destination
  declined : ∀ attempt ∈ report.attempts.dropLast, ∃ reason,
    attempt.outcome = .notApplicable reason
  created : ∀ call ∈ calls chronicle, call.2.call.isCreate = true →
    call.1 = .executing (report.attempts.length - 1)

theorem Picked.byTopology {source destination : VolumeAnswers} {chronicle : List Moment}
    {passed : List Strategy} {strategy : Strategy} {report : MigrationReport}
    (picked : Picked chronicle strategy passed.length report)
    (calledFor : CalledFor request source destination passed strategy) :
    PicksByTopology request source destination chronicle report := by
  have created : ∀ call ∈ calls chronicle, call.2.call.isCreate = true →
      call.1 = .executing (report.attempts.length - 1) := by
    rw [picked.attempted]
    exact picked.created
  have named := picked.named
  have attempted := picked.attempted
  cases calledFor with
  | onePod mountable =>
      have together := mountable.1.1
      refine ⟨?_, ?_, ?_, picked.declined, created⟩
      · simp [named, attempted, mountable, mountBoth]
      · simp [attempted, mountable]
      · simp [attempted, together]
  | inCluster together unmountable =>
      refine ⟨?_, ?_, ?_, picked.declined, created⟩
      · simp [attempted, unmountable]
      · simp [named, attempted, together, unmountable, rsyncInCluster]
      · simp [attempted, together]
  | crossCluster apart =>
      have unmountable : ¬CoMountable request source destination :=
        fun mountable => apart mountable.1.1
      refine ⟨?_, ?_, ?_, picked.declined, created⟩
      · simp [attempted, unmountable]
      · simp [attempted, apart]
      · simp [named, attempted, apart, rsyncCrossCluster]

/-- With all strategies of this library to choose from, and under favourable conditions, every run
ends well with the one that the topology calls for. -/
theorem run_picksByTopology {engine : Engine} (builtin : engine.registry = .builtin)
    {request : Request} (unnamed : request.strategies = []) (environment : Environment σ)
    (clusters : ClusterSet ClusterHandle) (world : World σ) (running : world.cancelled = false)
    (uncancelled : .cancellation ∉
      world.since ((engine.run environment request clusters).run world).2)
    {source destination : VolumeAnswers}
    (favoured : ∀ position, (engine.context request clusters position).Favoured
      (engine.scene environment request clusters world) source destination) :
    ∃ report, ((engine.run environment request clusters).run world).1 = .ok report ∧
      PicksByTopology request source destination
        (engine.chronicle environment request clusters world) report := by
  rcases exists_calledFor request source destination with ⟨passed, strategy, calledFor⟩
  rcases calledFor.builtin with ⟨rest, parted⟩
  have resolved : engine.registry.resolve request.strategies =
      .ok (passed ++ strategy :: rest) := by
    rw [builtin, unnamed, ← parted]
    rfl
  have known : ∀ other ∈ passed ++ strategy :: rest,
      other ∈ StrategyRegistry.builtin.strategies := by
    rw [parted]
    exact fun _ other_mem => other_mem
  have called (position : Nat) : CalledFor (engine.context request clusters position).request
      source destination passed strategy := calledFor
  rcases run_picks resolved (StrategyRegistry.within_applicable known) running uncancelled
    (fun _ other_mem position => (called position).declines (favoured position) other_mem)
    (fun position => (called position).applies (favoured position))
    (fun position => (called position).achieves_execute (favoured position)) with
    ⟨report, reported, picked⟩
  exact ⟨report, reported, picked.byTopology calledFor⟩

end Engine

namespace Quiet

/-- The request, if the claims are in different namespaces. -/
def spread : Request :=
  { request with destination := { request.destination with ns := "other" } }

/-- What is read of a volume in these clusters. -/
def standing (cluster : ClusterHandle) (volume : VolumeLocator) : VolumeAnswers :=
  { cluster, claim := answer (.claim volume.ns volume.name), users := [] }

/-- A run of a request in the clusters in which every call succeeds. -/
def servedScene (request : Request) : Scene Unit :=
  engine.scene serving request bothClusters (World.start ())

section Served

variable {request : Request}

theorem served {cluster : ClusterHandle} {call : Call} {result : Except Failure call.Answer}
    (recorded : ⟨cluster, call, result⟩ ∈ (servedScene request).record) :
    result = .ok (serve call) := by
  rw [servedScene, Engine.record_scene] at recorded
  rcases (engine.run_leads serving request bothClusters (World.start ())).answered recorded with
    ⟨situation, same⟩
  exact same

theorem created_served {stage : Stage Unit} {cluster : ClusterHandle} {object : ClusterObject}
    {created : ResourceRef} {look : Call} (passes : (servedScene request).Passes stage)
    (fresh : Fresh stage.made cluster object created look) :
    created.name = partOf object := by
  rcases fresh with ⟨earlier, later, made, -⟩
  have recorded : ⟨cluster, .create object, .ok created⟩ ∈ (servedScene request).record := by
    apply passes.recorded.subset
    rw [made]
    exact List.mem_append_right _ List.mem_cons_self
  have same : created = serve (.create object) := Except.ok.inj (served recorded)
  rw [same]
  rfl

theorem punctual (request : Request) (position : Nat) :
    (engine.context request bothClusters position).Punctual (servedScene request) := by
  constructor
  · intro stage cluster pod created passes relays fresh
    have named := created_served passes fresh
    cases relays with
    | relay node =>
        refine ⟨_, .now ?_⟩
        change Shows (· = .running true) (.ok (serve (.podState created.ns created.name)))
        rw [named]
        rfl
  · intro stage cluster created passes fresh
    exact ⟨_, .now (Option.some_ne_none _)⟩
  · intro stage cluster component pod created passes copies other fresh
    have named := created_served passes fresh
    have ended : serve (.podState created.ns created.name) = PodState.succeeded := by
      rw [named]
      cases copies with
      | relay => exact absurd rfl other
      | mountBoth => rfl
      | copier => rfl
    refine ⟨_, _, .now ?_, .now ?_⟩
    · change Shows PodState.HasStarted (.ok (serve (.podState created.ns created.name)))
      rw [ended]
      trivial
    · exact ended

/-- The serving cluster favours every request whose clusters are known. -/
theorem favoured (request : Request) {source destination : ClusterHandle}
    (sourceFound : bothClusters.get request.source.access = .ok source)
    (destinationFound : bothClusters.get request.destination.access = .ok destination)
    (position : Nat) :
    (engine.context request bothClusters position).Favoured (servedScene request)
      (standing source request.source) (standing destination request.destination) := by
  have accepted : mountViolation request (.ofUsers []) (.ofUsers []) = none := by
    unfold mountViolation
    split <;> rfl
  exact
    { sourceFound
      destinationFound
      sourceStands := ⟨served, served⟩
      destinationStands := ⟨served, served⟩
      accepted
      granted := fun recorded => ⟨_, served recorded⟩
      punctual := punctual request position }

/-- Whether such a run is cancelled. -/
def cancels (request : Request) : Bool :=
  ((World.start ()).since
    ((engine.run serving request bothClusters).run (World.start ())).2).any
      Occurrence.isCancellation

theorem uncancelled (request : Request) (never : cancels request = false) :
    .cancellation ∉ (World.start ()).since
      ((engine.run serving request bothClusters).run (World.start ())).2 := by
  intro cancellation_mem
  exact List.any_eq_false.mp never _ cancellation_mem rfl

end Served

end Quiet

/-- One request for each strategy. -/
theorem Engine.run_picksByTopology_served :
    (∃ report, ((Quiet.engine.run Quiet.serving Quiet.request Quiet.bothClusters).run
          (World.start ())).1 = .ok report ∧
        report.strategy = "mount-both" ∧ report.attempts.length = 1) ∧
      (∃ report, ((Quiet.engine.run Quiet.serving Quiet.spread Quiet.bothClusters).run
          (World.start ())).1 = .ok report ∧
        report.strategy = "rsync-in-cluster" ∧ report.attempts.length = 2) ∧
      ∃ report, ((Quiet.engine.run Quiet.serving Quiet.distant Quiet.bothClusters).run
          (World.start ())).1 = .ok report ∧
        report.strategy = "rsync-cross-cluster" ∧ report.attempts.length = 3 := by
  refine ⟨?_, ?_, ?_⟩
  · have running := Quiet.uncancelled Quiet.request (by decide +kernel)
    rcases run_picksByTopology rfl rfl Quiet.serving Quiet.bothClusters (World.start ()) rfl running
      (Quiet.favoured Quiet.request rfl rfl) with ⟨report, reported, picks⟩
    exact ⟨report, reported, picks.onePod.mpr ⟨by decide, none, rfl⟩⟩
  · have running := Quiet.uncancelled Quiet.spread (by decide +kernel)
    rcases run_picksByTopology rfl rfl Quiet.serving Quiet.bothClusters (World.start ()) rfl running
      (Quiet.favoured Quiet.spread rfl rfl) with ⟨report, reported, picks⟩
    refine ⟨report, reported, picks.inCluster.mpr ⟨by decide, ?_⟩⟩
    rintro ⟨together, -⟩
    exact absurd together (by decide)
  · have running := Quiet.uncancelled Quiet.distant (by decide +kernel)
    rcases run_picksByTopology rfl rfl Quiet.serving Quiet.bothClusters (World.start ()) rfl running
      (Quiet.favoured Quiet.distant rfl rfl) with ⟨report, reported, picks⟩
    exact ⟨report, reported, picks.crossCluster.mpr (by decide)⟩

end VolumeMigration
