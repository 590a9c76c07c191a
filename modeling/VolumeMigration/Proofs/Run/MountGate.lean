import VolumeMigration.Proofs.Run.Teardown
import VolumeMigration.Proofs.Strategy.Gate

/-!
# Nothing is created for volumes in use

Between the evaluation of a candidate and its execution the users of a volume may change. Every
execution therefore reads them again: `Engine.run_gated` says that whenever it creates an object,
it has read both claims before, and the last thing that it read about the users of either volume
was that no live one is left. What the evaluation read does not count.
-/

namespace VolumeMigration

/-- The last time that some calls asked a cluster something, it answered with a result. -/
def LastAnswer (cluster : ClusterHandle) (call : Call) (result : Except Failure call.Answer)
    (made : List Exchange) : Prop :=
  ∃ earlier later, made = earlier ++ ⟨cluster, call, result⟩ :: later ∧
    ∀ exchange ∈ later, ¬(exchange.cluster = cluster ∧ exchange.call = call)

/-- Some calls read a claim, and the last time they read its users none of them was live. -/
def FoundFree (cluster : ClusterHandle) (volume : VolumeLocator) (made : List Exchange) : Prop :=
  (∃ claim, ⟨cluster, .claim volume.ns volume.name, .ok claim⟩ ∈ made) ∧
    ∃ users : List ClaimUser,
      LastAnswer cluster (.claimUsers volume.ns volume.name) (.ok users) made ∧ NoneLive users

/-- Some calls found both volumes of a request free. -/
def FoundBothFree (clusters : ClusterSet ClusterHandle) (request : Request)
    (made : List Exchange) : Prop :=
  ∃ source destination, clusters.get request.source.access = .ok source ∧
    clusters.get request.destination.access = .ok destination ∧
    FoundFree source request.source made ∧ FoundFree destination request.destination made

/-- An exchange that could not read the users of a volume, or found a live one. -/
def Exchange.ShowsUse : Exchange → Prop
  | ⟨_, .claimUsers _ _, .error _⟩ => True
  | ⟨_, .claimUsers _ _, .ok users⟩ => ¬NoneLive users
  | _ => False

theorem lastAnswer_usersRead (answers : VolumeAnswers) (volume : VolumeLocator)
    (earlier : List Exchange) {later : List Exchange}
    (unread : ∀ exchange ∈ later,
      ¬(exchange.cluster = answers.cluster ∧ exchange.call = .claimUsers volume.ns volume.name)) :
    LastAnswer answers.cluster (.claimUsers volume.ns volume.name) (.ok answers.users)
      (earlier ++ answers.usersRead volume :: later) :=
  ⟨earlier, later, rfl, unread⟩

namespace FreeReads

variable {context : AttemptContext} {source destination : VolumeAnswers} {reads : List Exchange}

/-- Reads that showed both volumes free still count after calls that probe nothing. -/
theorem foundBothFree (free : FreeReads context source destination reads) {more : List Exchange}
    (unprobed : ∀ exchange ∈ more, exchange.call.isProbe = false) :
    FoundBothFree context.clusters context.request (reads ++ more) := by
  have unread (cluster : ClusterHandle) (ns name : String) : ∀ exchange ∈ more,
      ¬(exchange.cluster = cluster ∧ exchange.call = .claimUsers ns name) := by
    rintro exchange exchange_mem ⟨-, same⟩
    have unprobed := unprobed exchange exchange_mem
    simp [same, Call.isProbe] at unprobed
  have destination_last := lastAnswer_usersRead destination context.request.destination
    (source.reads context.request.source ++ [destination.claimRead context.request.destination])
    (unread _ _ _)
  rw [free.reads_eq]
  refine ⟨source.cluster, destination.cluster, free.source_cluster, free.destination_cluster,
    ⟨⟨source.claim, List.mem_cons_self⟩, ?_⟩, ⟨⟨destination.claim, ?_⟩, destination.users, ?_,
      free.destination_free⟩⟩
  · by_cases same : destination.cluster = source.cluster ∧
        context.request.destination.ns = context.request.source.ns ∧
        context.request.destination.name = context.request.source.name
    · -- both volumes are one: what counts is the read of the destination
      rw [same.1, same.2.1, same.2.2] at destination_last
      exact ⟨destination.users, by simpa [VolumeAnswers.reads] using destination_last,
        free.destination_free⟩
    · have unread_later : ∀ exchange ∈ destination.reads context.request.destination ++ more,
          ¬(exchange.cluster = source.cluster ∧ exchange.call =
            .claimUsers context.request.source.ns context.request.source.name) := by
        intro exchange exchange_mem
        simp only [VolumeAnswers.reads, List.cons_append, List.nil_append, List.mem_cons]
          at exchange_mem
        rcases exchange_mem with rfl | rfl | exchange_mem
        · simp [VolumeAnswers.claimRead]
        · simpa [VolumeAnswers.usersRead] using same
        · exact unread _ _ _ exchange exchange_mem
      have source_last := lastAnswer_usersRead source context.request.source
        [source.claimRead context.request.source] unread_later
      exact ⟨source.users, by simpa [VolumeAnswers.reads] using source_last, free.source_free⟩
  · exact List.mem_append_left _ (List.mem_append_right _ List.mem_cons_self)
  · simpa [VolumeAnswers.reads] using destination_last

theorem probes (free : FreeReads context source destination reads) :
    ∀ exchange ∈ reads, exchange.call.isProbe = true := by
  rw [free.reads_eq]
  simp [VolumeAnswers.reads, VolumeAnswers.claimRead, VolumeAnswers.usersRead, Call.isProbe]

theorem not_showsUse (free : FreeReads context source destination reads) :
    ∀ exchange ∈ reads, ¬exchange.ShowsUse := by
  rw [free.reads_eq]
  intro exchange exchange_mem
  simp only [VolumeAnswers.reads, List.cons_append, List.nil_append, List.mem_cons,
    List.not_mem_nil, or_false] at exchange_mem
  rcases exchange_mem with rfl | rfl | rfl | rfl
  · exact id
  · exact not_not_intro free.source_free
  · exact id
  · exact not_not_intro free.destination_free

end FreeReads

theorem Call.isProbe_of_isDelete {call : Call} (delete : call.isDelete = true) :
    call.isProbe = false ∧ call.isCreate = false := by
  cases call <;> simp_all [isDelete, isProbe, isCreate]

theorem Exchange.isProbe_of_showsUse {exchange : Exchange} (shows : exchange.ShowsUse) :
    exchange.call.isProbe = true := by
  rcases exchange with ⟨_, _ | _ | _ | _ | _ | _, _⟩
  case claimUsers => rfl
  all_goals cases shows

/-- Some calls create nothing, or they first found both volumes free and then did not read them
again. -/
def ReadsFirst (context : AttemptContext) (made : List Exchange) : Prop :=
  (∀ exchange ∈ made, exchange.call.isCreate = false) ∨
    ∃ source destination reads rest, made = reads ++ rest ∧
      FreeReads context source destination reads ∧
      ∀ exchange ∈ rest, exchange.call.isProbe = false

/-- Where an object is asked for, both volumes were last read to be free. -/
theorem ReadsFirst.foundBothFree {context : AttemptContext} {made earlier later : List Exchange}
    {exchange : Exchange} (readsFirst : ReadsFirst context made)
    (parted : made = earlier ++ exchange :: later) (create : exchange.call.isCreate = true) :
    FoundBothFree context.clusters context.request earlier := by
  rcases readsFirst with
    created_none | ⟨source, destination, reads, rest, made_eq, free, unprobed⟩
  · have created := created_none exchange (by simp [parted])
    rw [create] at created
    cases created
  · have exchange_mem : exchange ∉ reads := by
      intro reads_mem
      rw [Call.isCreate_of_isProbe (free.probes exchange reads_mem)] at create
      cases create
    rw [made_eq] at parted
    rcases exists_rest parted exchange_mem with ⟨more, earlier_eq, rfl⟩
    rw [earlier_eq]
    exact free.foundBothFree fun other other_mem =>
      unprobed other (List.mem_append_left _ other_mem)

/-- Calls that showed a use create nothing, before or after. -/
theorem ReadsFirst.creates_none {context : AttemptContext} {made : List Exchange}
    {shown : Exchange} (readsFirst : ReadsFirst context made) (shown_mem : shown ∈ made)
    (shows : shown.ShowsUse) : ∀ exchange ∈ made, exchange.call.isCreate = false := by
  rcases readsFirst with created_none | ⟨source, destination, reads, rest, rfl, free, unprobed⟩
  · exact created_none
  · rcases List.mem_append.mp shown_mem with reading | working
    · exact absurd shows (free.not_showsUse shown reading)
    · have probe := Exchange.isProbe_of_showsUse shows
      rw [unprobed shown working] at probe
      cases probe

namespace Engine

variable {σ : Type} {engine : Engine} {request : Request} {candidates : List Strategy}

/-- An execution that is torn down has read before it created. -/
theorem TornDown.readsFirst {environment : Environment σ} {clusters : ClusterSet ClusterHandle}
    {world : World σ} {chronicle : List Moment} {strategy : Strategy}
    {transfer : AttemptContext → Provisioning Unit} {position : Nat} {attempt : AttemptResult}
    {started middle ended : World σ} {work teardown : List Occurrence}
    (tornDown : engine.TornDown environment request clusters world chronicle strategy transfer
      position attempt started middle ended work teardown)
    (guarded : request.options.ignoreMounted = false) :
    ReadsFirst (engine.context request clusters position)
      (exchangesDuring (.executing position) chronicle) := by
  rcases tornDown.course with ⟨outcome, resources, leftovers, course, -⟩
  rw [tornDown.executedAt.exchanges_eq, exchanges_append]
  rcases tornDown.transfers.gated guarded course with
    probes | ⟨source, destination, reads, more, work_eq, free, works⟩
  · refine .inl fun exchange exchange_mem => ?_
    rcases List.mem_append.mp exchange_mem with working | releasing
    · exact Call.isCreate_of_isProbe (probes exchange working)
    · exact (Call.isProbe_of_isDelete (tornDown.deletes exchange releasing)).2
  · refine .inr ⟨source, destination, reads, more ++ exchanges teardown, ?_, free, ?_⟩
    · rw [work_eq, List.append_assoc]
    · intro exchange exchange_mem
      rcases List.mem_append.mp exchange_mem with working | releasing
      · exact Call.isProbe_of_isWork (works exchange working)
      · exact (Call.isProbe_of_isDelete (tornDown.deletes exchange releasing)).1

/-- In every run of a request that minds users whose candidates are strategies of this library, an
object is created only in an execution that has read both claims before and whose last read of the
users of either volume found no live one; and an execution that cannot read the users of a volume,
or finds a live one, creates nothing. -/
theorem run_gated (resolved : engine.registry.resolve request.strategies = .ok candidates)
    (builtin : ∀ strategy ∈ candidates, strategy ∈ StrategyRegistry.builtin.strategies)
    (guarded : request.options.ignoreMounted = false) (environment : Environment σ)
    (clusters : ClusterSet ClusterHandle) (world : World σ) :
    let chronicle := engine.chronicle environment request clusters world
    (∀ earlier moment later exchange, chronicle = earlier ++ moment :: later →
        moment.occurrence.exchange? = some exchange → exchange.call.isCreate = true →
          ∃ position, moment.state = .executing position ∧
            FoundBothFree clusters request (exchangesDuring (.executing position) earlier)) ∧
      ∀ position, (∃ exchange ∈ exchangesDuring (.executing position) chronicle,
          exchange.ShowsUse) →
        ∀ exchange ∈ exchangesDuring (.executing position) chronicle,
          exchange.call.isCreate = false := by
  intro chronicle
  have readsFirst {position : Nat} {moment : Moment} (moment_mem : moment ∈ chronicle)
      (executing : moment.state = .executing position) :
      ReadsFirst (engine.context request clusters position)
        (exchangesDuring (.executing position) chronicle) := by
    rcases exists_tornDown resolved builtin environment clusters world moment_mem executing with
      ⟨_, _, _, _, _, _, _, _, -, -, tornDown⟩
    exact tornDown.readsFirst guarded
  constructor
  · intro earlier moment later exchange parted found create
    have moment_mem : moment ∈ chronicle := by
      rw [parted]
      exact List.mem_append_right _ List.mem_cons_self
    have call_mem : (moment.state, exchange) ∈ calls chronicle :=
      mem_calls.mpr ⟨moment, moment_mem, rfl, found⟩
    rcases (run_calls resolved (StrategyRegistry.within_applicable builtin) environment clusters
      world).1 _ call_mem with ⟨position, ⟨-, probe⟩ | executing⟩
    · rw [Call.isCreate_of_isProbe probe] at create
      cases create
    · have made_parted : exchangesDuring (.executing position) chronicle =
          exchangesDuring (.executing position) earlier ++ exchange ::
            exchangesDuring (.executing position) later := by
        rw [parted, exchangesDuring_append, exchangesDuring_cons executing found]
      exact ⟨position, executing,
        (readsFirst moment_mem executing).foundBothFree made_parted create⟩
  · rintro position ⟨shown, shown_mem, shows⟩
    rcases mem_exchangesDuring.mp shown_mem with ⟨moment, moment_mem, executing, -⟩
    exact (readsFirst moment_mem executing).creates_none shown_mem shows

/-- The quiet migration creates its pod after it found both claims free. -/
theorem run_gated_quiet :
    Quiet.request.options.ignoreMounted = false ∧
      ∃ earlier moment later exchange,
        Quiet.engine.chronicle Quiet.environment Quiet.request Quiet.clusters (World.start ()) =
            earlier ++ moment :: later ∧
          moment.occurrence.exchange? = some exchange ∧ exchange.call.isCreate = true ∧
          ∃ position, moment.state = .executing position ∧
            FoundBothFree Quiet.clusters Quiet.request
              (exchangesDuring (.executing position) earlier) := by
  refine ⟨rfl, ?_⟩
  rcases Quiet.creates with ⟨earlier, moment, later, exchange, parted, found, create⟩
  exact ⟨earlier, moment, later, exchange, parted, found, create,
    (run_gated Quiet.resolved (fun _ strategy_mem => strategy_mem) rfl Quiet.environment
      Quiet.clusters (World.start ())).1 earlier moment later exchange parted found create⟩

end Engine

end VolumeMigration
