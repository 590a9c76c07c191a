import VolumeMigration.Proofs.Run.Executions

/-!
# A quiet migration

A request between two volumes of one cluster, the engine that knows the strategies of this library,
and clusters in which every call succeeds and every pod has ended well. The theorems about runs are
tried out on it.
-/

namespace VolumeMigration

namespace Quiet

/-- A claim in the cluster that is found without any kubeconfig. -/
def volume (name : String) : VolumeLocator :=
  { access := .default, ns := "default", name }

/-- The request to copy one claim to another, with nothing special about it. -/
def request : Request :=
  { source := volume "old"
    destination := volume "new"
    options := { deleteExtraneous := false, ignoreMounted := false }
    strategies := []
    rsyncImage := defaultRsyncImage
    sshdImage := defaultSshdImage }

/-- The engine with the strategies of this library, which publishes nothing. -/
def engine : Engine :=
  { registry := .builtin
    pacing := .standard
    publisher := fun _ _ => { records := [], failure := none }
    draws := fun position =>
      { attemptId := toString position, keyPair := { authorizedKey := "", privateKey := "" } }
    startedAt := { seconds := 0, nanos := 0 } }

/-- The one cluster of both claims. -/
def clusters : ClusterSet ClusterHandle :=
  .insert .empty .default ⟨0⟩

/-- The answer to a call: claims exist and are free, and what was created is ready or done. -/
def answer : (call : Call) → call.Answer
  | .claim ns name => { ns, name, accessModes := [.readWriteOnce], pinnedNode := none }
  | .claimUsers _ _ => ([] : List ClaimUser)
  | .create object =>
      { kind := object.kind
        ns := object.metadata.ns.getD ""
        name := object.metadata.name.getD "" }
  | .delete _ => ()
  | .podState _ _ => PodState.succeeded
  | .serviceIngress _ _ => some "localhost"

/-- The clusters in which every call succeeds, with a token that nothing cancels. -/
def environment : Environment Unit :=
  { respond := fun _ call _ state => ({ result := .ok (answer call), cancels := false }, state)
    cancelTime := none }

/-- The part that an object plays in its attempt, as its labels tell. -/
def partOf (object : ClusterObject) : String :=
  ((object.metadata.labels.getD []).lookup componentLabel).getD ""

/-- The answer to a call when relays run: what was created is named after its part. -/
def serve : (call : Call) → call.Answer
  | .create object =>
      { kind := object.kind, ns := object.metadata.ns.getD "", name := partOf object }
  | .podState _ "sshd" => PodState.running true
  | call => answer call

/-- The clusters in which every call succeeds, relays run and other pods have ended well. -/
def serving : Environment Unit :=
  { respond := fun _ call _ state => ({ result := .ok (serve call), cancels := false }, state)
    cancelTime := none }

/-- The request, if the destination is in another cluster. -/
def distant : Request :=
  { request with destination :=
      { request.destination with access := { kubeconfig := none, context := some "other" } } }

/-- The clusters of a request between two of them. -/
def bothClusters : ClusterSet ClusterHandle :=
  clusters.insert distant.destination.access ⟨1⟩

/-- The first attempt at a request whose volumes are in two clusters. -/
def distantContext : AttemptContext :=
  engine.context distant bothClusters 0

theorem resolved :
    engine.registry.resolve request.strategies = .ok StrategyRegistry.builtin.strategies :=
  rfl

/-- The run executes its first candidate. -/
theorem executes_first :
    ∃ moment ∈ engine.chronicle environment request clusters (World.start ()),
      moment.state = .executing 0 := by
  have found : ((engine.chronicle environment request clusters (World.start ())).any
      fun moment => moment.state = .executing 0) = true := by
    decide +kernel
  simpa only [List.any_eq_true, decide_eq_true_eq] using found

/-- The run ends with a report. -/
theorem succeeds :
    ∃ report, ((engine.run environment request clusters).run (World.start ())).1 = .ok report := by
  have ended : ((engine.run environment request clusters).run (World.start ())).1.isOk = true := by
    decide +kernel
  cases result : ((engine.run environment request clusters).run (World.start ())).1 with
  | error failure => simp [result, Except.isOk, Except.toBool] at ended
  | ok report => exact ⟨report, rfl⟩

theorem creates :
    ∃ earlier moment later exchange,
      engine.chronicle environment request clusters (World.start ()) =
          earlier ++ moment :: later ∧
        moment.occurrence.exchange? = some exchange ∧ exchange.call.isCreate = true := by
  have found : ((engine.chronicle environment request clusters (World.start ())).any
      fun moment => moment.occurrence.exchange?.any (·.call.isCreate)) = true := by
    decide +kernel
  rcases List.any_eq_true.mp found with ⟨moment, moment_mem, created⟩
  rcases (Option.any_eq_true _ _).mp created with ⟨exchange, exchange_eq, create⟩
  rcases List.append_of_mem moment_mem with ⟨earlier, later, parted⟩
  exact ⟨earlier, moment, later, exchange, parted, exchange_eq, create⟩

/-- The same clusters, with a token that is cancelled at the first look at a pod. -/
def interrupting : Environment Unit :=
  { respond := fun _ call _ state =>
      ({ result := .ok (answer call), cancels := call.isLook }, state)
    cancelTime := none }

/-- Under the interrupting cluster the cancellation happens in the run. -/
theorem interrupted :
    ∃ earlier moment later,
      engine.chronicle interrupting request clusters (World.start ()) =
          earlier ++ moment :: later ∧
        moment.occurrence = .cancellation := by
  have found : ((engine.chronicle interrupting request clusters (World.start ())).any
      fun moment => moment.occurrence.isCancellation) = true := by
    decide +kernel
  rcases List.any_eq_true.mp found with ⟨moment, moment_mem, cancels⟩
  rcases List.append_of_mem moment_mem with ⟨earlier, later, parted⟩
  refine ⟨earlier, moment, later, parted, ?_⟩
  cases occurrence : moment.occurrence <;> simp_all [Occurrence.isCancellation]

end Quiet

end VolumeMigration
