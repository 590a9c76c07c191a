import Mathlib.Data.List.Basic
import VolumeMigration.Proofs.Plan.Order
import VolumeMigration.Proofs.Plan.Resources

/-!
# What a part of an attempt builds

`requests` collects the objects that some calls asked to create, and `built` those that were
created. A part of an attempt builds a list of objects (`Provisioning.Builds`) if it asks for them
one after the other, goes on only after an object was created, and has created all of them when it
ends well. Parts that follow each other build one list after the other. A part creates first
(`Provisioning.CreatingFirst`) if it does nothing else before the last object that it asks for.
-/

namespace VolumeMigration

/-- An object with the cluster that it belongs to. -/
abbrev PlacedObject := ClusterHandle × ClusterObject

namespace Exchange

/-- The object that an exchange asked to create. -/
def request? : Exchange → Option PlacedObject
  | ⟨cluster, .create object, _⟩ => some (cluster, object)
  | _ => none

/-- The object that an exchange created. -/
def built? : Exchange → Option PlacedObject
  | ⟨cluster, .create object, .ok _⟩ => some (cluster, object)
  | _ => none

theorem request?_eq_none {exchange : Exchange} (other : exchange.call.isCreate = false) :
    exchange.request? = none := by
  rcases exchange with ⟨_, _ | _ | _ | _ | _ | _, _⟩ <;> simp_all [request?, Call.isCreate]

theorem built?_eq_none {exchange : Exchange} (other : exchange.call.isCreate = false) :
    exchange.built? = none := by
  rcases exchange with ⟨_, _ | _ | _ | _ | _ | _, _⟩ <;> simp_all [built?, Call.isCreate]

end Exchange

/-- The objects that some calls asked to create, in order. -/
def requests (calls : List Exchange) : List PlacedObject :=
  calls.filterMap Exchange.request?

/-- The objects that some calls created, in order. -/
def built (calls : List Exchange) : List PlacedObject :=
  calls.filterMap Exchange.built?

@[simp]
theorem requests_append (first second : List Exchange) :
    requests (first ++ second) = requests first ++ requests second :=
  List.filterMap_append

@[simp]
theorem built_append (first second : List Exchange) :
    built (first ++ second) = built first ++ built second :=
  List.filterMap_append

theorem requests_eq_nil {calls : List Exchange}
    (others : ∀ exchange ∈ calls, exchange.call.isCreate = false) : requests calls = [] := by
  apply List.filterMap_eq_nil_iff.mpr
  intro exchange exchange_mem
  exact Exchange.request?_eq_none (others exchange exchange_mem)

theorem built_eq_nil {calls : List Exchange}
    (others : ∀ exchange ∈ calls, exchange.call.isCreate = false) : built calls = [] := by
  apply List.filterMap_eq_nil_iff.mpr
  intro exchange exchange_mem
  exact Exchange.built?_eq_none (others exchange exchange_mem)

theorem request_mem {calls : List Exchange} {cluster : ClusterHandle} {object : ClusterObject}
    {result : Except Failure ResourceRef}
    (called : ⟨cluster, .create object, result⟩ ∈ calls) : (cluster, object) ∈ requests calls :=
  List.mem_filterMap.mpr ⟨_, called, rfl⟩

/-- What some calls asked for is in one of them. -/
theorem exists_of_request {calls : List Exchange} {cluster : ClusterHandle}
    {object : ClusterObject} (requested : (cluster, object) ∈ requests calls) :
    ∃ result, ⟨cluster, .create object, result⟩ ∈ calls := by
  rcases List.mem_filterMap.mp requested with ⟨⟨asked, call, result⟩, exchange_mem, same⟩
  cases call <;> cases same
  exact ⟨result, exchange_mem⟩

/-- All objects that some calls asked for were created. -/
def Granted (calls : List Exchange) : Prop :=
  ∀ exchange ∈ calls, exchange.built? = exchange.request?

/-- If all objects were granted, those that were asked for are those that were created. -/
theorem Granted.built_eq {calls : List Exchange} (granted : Granted calls) :
    built calls = requests calls :=
  List.filterMap_congr granted

theorem granted_nil : Granted [] := by
  intro exchange exchange_mem
  cases exchange_mem

theorem Granted.append {first second : List Exchange} (left : Granted first)
    (right : Granted second) : Granted (first ++ second) := by
  intro exchange exchange_mem
  rcases List.mem_append.mp exchange_mem with early | late
  · exact left exchange early
  · exact right exchange late

/-- Some calls asked for objects of a list in order, each only after those before it were
created. -/
structure Begun (planned : List PlacedObject) (calls : List Exchange) : Prop where
  requests : requests calls <+: planned
  built : built calls <+: planned
  granted : OnlyAfter Granted (fun call => call.isCreate = true) calls

/-- Some calls asked for the objects of a list in order, and created all of them. -/
structure Finished (planned : List PlacedObject) (calls : List Exchange) : Prop where
  requests : requests calls = planned
  granted : Granted calls

/-- A finished list was created in order. -/
theorem Finished.built {planned : List PlacedObject} {calls : List Exchange}
    (finished : Finished planned calls) : built calls = planned := by
  rw [finished.granted.built_eq, finished.requests]

/-- A finished list was begun. -/
theorem Finished.begun {planned : List PlacedObject} {calls : List Exchange}
    (finished : Finished planned calls) : Begun planned calls := by
  refine ⟨finished.requests ▸ List.prefix_rfl, finished.built ▸ List.prefix_rfl, ?_⟩
  intro earlier later exchange parted _ other other_mem
  apply finished.granted
  rw [parted]
  exact List.mem_append_left _ other_mem

theorem finished_created (cluster : ClusterHandle) (object : ClusterObject)
    (resource : ResourceRef) :
    Finished [(cluster, object)] [⟨cluster, .create object, .ok resource⟩] := by
  refine ⟨rfl, ?_⟩
  intro exchange exchange_mem
  rw [List.mem_singleton.mp exchange_mem]
  rfl

/-- An object that is refused is as far as a list gets. -/
theorem begun_refused (cluster : ClusterHandle) (object : ClusterObject) (failure : Failure) :
    Begun [(cluster, object)] [⟨cluster, .create object, .error failure⟩] :=
  ⟨List.prefix_rfl, List.nil_prefix, onlyAfter_singleton granted_nil⟩

theorem begun_nil (planned : List PlacedObject) : Begun planned [] :=
  ⟨List.nil_prefix, List.nil_prefix, onlyAfter_nil⟩

theorem Begun.mono {planned : List PlacedObject} {calls : List Exchange}
    (begun : Begun planned calls) (more : List PlacedObject) : Begun (planned ++ more) calls :=
  ⟨begun.requests.trans (List.prefix_append _ _), begun.built.trans (List.prefix_append _ _),
    begun.granted⟩

/-- When an object is asked for, exactly the objects before it in the list were created. -/
theorem Begun.built_before {planned : List PlacedObject} {calls earlier later : List Exchange}
    {cluster : ClusterHandle} {object : ClusterObject} {result : Except Failure ResourceRef}
    (begun : Begun planned calls)
    (parted : calls = earlier ++ ⟨cluster, .create object, result⟩ :: later) :
    VolumeMigration.built earlier ++ [(cluster, object)] <+: planned := by
  have granted : Granted earlier := begun.granted parted rfl
  have requested : VolumeMigration.requests calls =
      VolumeMigration.requests earlier ++ [(cluster, object)] ++
        VolumeMigration.requests later := by
    rw [parted, requests_append, List.append_assoc]
    rfl
  rw [granted.built_eq]
  apply List.IsPrefix.trans _ begun.requests
  rw [requested]
  exact List.prefix_append _ _

/-- A list that is begun after a finished one goes on with it. -/
theorem Finished.begins {planned more : List PlacedObject} {first second : List Exchange}
    (finished : Finished planned first) (begun : Begun more second) :
    Begun (planned ++ more) (first ++ second) := by
  refine ⟨?_, ?_, finished.begun.granted.append ?_⟩
  · rw [requests_append, finished.requests]
    exact List.prefix_append_right_inj planned |>.mpr begun.requests
  · rw [built_append, finished.built]
    exact List.prefix_append_right_inj planned |>.mpr begun.built
  · exact begun.granted.mono fun _ granted => finished.granted.append granted

/-- Two finished lists are one finished list. -/
theorem Finished.append {planned more : List PlacedObject} {first second : List Exchange}
    (left : Finished planned first) (right : Finished more second) :
    Finished (planned ++ more) (first ++ second) := by
  refine ⟨?_, left.granted.append right.granted⟩
  rw [requests_append, left.requests, right.requests]

/-- Calls that ask for nothing finish the empty list. -/
theorem finished_of_others {calls : List Exchange}
    (others : ∀ exchange ∈ calls, exchange.call.isCreate = false) : Finished [] calls := by
  refine ⟨requests_eq_nil others, ?_⟩
  intro exchange exchange_mem
  have other := others exchange exchange_mem
  rw [Exchange.built?_eq_none other, Exchange.request?_eq_none other]

/-- Calls that ask for nothing may stand before and after. -/
theorem Finished.between {planned : List PlacedObject} {earlier calls later : List Exchange}
    (finished : Finished planned calls)
    (before : ∀ exchange ∈ earlier, exchange.call.isCreate = false)
    (after : ∀ exchange ∈ later, exchange.call.isCreate = false) :
    Finished planned (earlier ++ calls ++ later) := by
  have behind := (finished_of_others before).append finished
  simpa using behind.append (finished_of_others after)

theorem finished_of_reads {calls : List Exchange}
    (reads : ∀ exchange ∈ calls, exchange.call.isRead = true) : Finished [] calls := by
  apply finished_of_others
  intro exchange exchange_mem
  exact Call.isCreate_of_isRead (reads exchange exchange_mem)

theorem finished_of_probes {calls : List Exchange}
    (probes : ∀ exchange ∈ calls, exchange.call.isProbe = true) : Finished [] calls := by
  apply finished_of_reads
  intro exchange exchange_mem
  exact Call.isRead_of_isProbe (probes exchange exchange_mem)

/-- Calls that create nothing do not count after others. -/
theorem Begun.append_others {planned : List PlacedObject} {first second : List Exchange}
    (begun : Begun planned first)
    (others : ∀ exchange ∈ second, exchange.call.isCreate = false) :
    Begun planned (first ++ second) := by
  refine ⟨?_, ?_, begun.granted.append (onlyAfter_of_none ?_)⟩
  · rw [requests_append, requests_eq_nil others, List.append_nil]
    exact begun.requests
  · rw [built_append, built_eq_nil others, List.append_nil]
    exact begun.built
  · intro exchange exchange_mem create
    rw [others exchange exchange_mem] at create
    cases create

namespace Provisioning

variable {α β : Type}

/-- A part of an attempt that asks for the objects of a list one after the other, as long as they
are created, and has created all of them if it ends well. -/
structure Builds (part : Provisioning α) (planned : List PlacedObject) : Prop where
  begins : ∀ {resources : Provisioned} {cancelled : Bool} {trace : List Occurrence}
    {leftovers : List String} {ended : Except Failure (Except Failure α × Provisioned)},
    (part resources).Course cancelled trace leftovers ended → Begun planned (exchanges trace)
  finishes : ∀ {resources after : Provisioned} {cancelled : Bool} {trace : List Occurrence}
    {leftovers : List String} {value : α},
    (part resources).Course cancelled trace leftovers (.ok (.ok value, after)) →
      Finished planned (exchanges trace)

theorem builds_lift {plan : Plan α} (reads : plan.Within Call.isRead) :
    (lift plan).Builds [] := by
  have finished {resources : Provisioned} {cancelled : Bool} {trace : List Occurrence}
      {leftovers : List String} {ended : Except Failure (Except Failure α × Provisioned)}
      (course : (lift plan resources).Course cancelled trace leftovers ended) :
      Finished [] (exchanges trace) :=
    finished_of_reads (course.within (within_lift reads resources)).2
  exact ⟨fun course => (finished course).begun, fun course => finished course⟩

/-- The creation of an object builds it. -/
theorem builds_create (cluster : ClusterHandle) (object : ClusterObject) :
    (create cluster object).Builds [(cluster, object)] := by
  constructor
  · intro resources cancelled trace leftovers ended course
    rcases course_create course with ⟨-, outcome, creating, -⟩
    cases creating with
    | cancelled => exact begun_nil _
    | created asking =>
        rw [asking.exchanges]
        exact (finished_created cluster object _).begun
    | refused asking =>
        rw [asking.exchanges]
        exact begun_refused cluster object _
  · intro resources after cancelled trace leftovers resource course
    rw [course_create_ok course]
    exact finished_created cluster object resource

/-- Parts that follow each other build their lists one after the other. -/
theorem Builds.bind {part : Provisioning α} {next : α → Provisioning β}
    {planned more : List PlacedObject} (first : part.Builds planned)
    (rest : ∀ value, (next value).Builds more) : (part >>= next).Builds (planned ++ more) := by
  constructor
  · intro resources cancelled trace leftovers ended course
    -- a first part that fails may have begun its own list, and leaves the second one alone
    rcases course_bind course with ⟨failure, -, failed⟩ | ⟨failure, after, -, failed⟩ |
      ⟨value, middle, early, late, noted, others, rfl, rfl, done, followed⟩
    · exact (first.begins failed).mono more
    · exact (first.begins failed).mono more
    · rw [exchanges_append]
      exact (first.finishes done).begins ((rest value).begins followed)
  · intro resources after cancelled trace leftovers result course
    rcases course_bind_ok course with
      ⟨value, middle, early, late, noted, others, rfl, rfl, done, followed⟩
    rw [exchanges_append]
    exact (first.finishes done).append ((rest value).finishes followed)

end Provisioning

/-! ## Creating first -/

/-- Every object that some calls ask for is asked for before anything else is done. -/
def CreatesFirst (made : List Exchange) : Prop :=
  OnlyAfter (fun earlier => ∀ exchange ∈ earlier, exchange.call.isCreate = true)
    (fun call => call.isCreate = true) made

theorem createsFirst_append {first second : List Exchange}
    (creates : ∀ exchange ∈ first, exchange.call.isCreate = true)
    (rest : CreatesFirst second) : CreatesFirst (first ++ second) := by
  apply OnlyAfter.append
  · intro earlier later exchange parted _ other other_mem
    apply creates
    rw [parted]
    exact List.mem_append_left _ other_mem
  · refine OnlyAfter.mono rest ?_
    intro earlier created
    exact List.forall_mem_append.mpr ⟨creates, created⟩

theorem createsFirst_of_reads {made : List Exchange}
    (reads : ∀ exchange ∈ made, exchange.call.isRead = true) : CreatesFirst made := by
  apply onlyAfter_of_none
  intro exchange exchange_mem create
  have read := reads exchange exchange_mem
  rw [Call.isCreate_of_isRead read] at create
  cases create

namespace Provisioning

variable {α β : Type}

/-- All courses of a part of an attempt create first. -/
def CreatingFirst (part : Provisioning α) : Prop :=
  ∀ ⦃resources : Provisioned⦄ ⦃cancelled : Bool⦄ ⦃trace : List Occurrence⦄
    ⦃leftovers : List String⦄ ⦃ended : Except Failure (Except Failure α × Provisioned)⦄,
    (part resources).Course cancelled trace leftovers ended → CreatesFirst (exchanges trace)

theorem creatingFirst_lift {plan : Plan α} (looks : plan.Within Call.isLook) :
    (lift plan).CreatingFirst := by
  intro resources cancelled trace leftovers ended course
  apply createsFirst_of_reads
  intro exchange exchange_mem
  have looked := (course.within (within_lift looks resources)).2 exchange exchange_mem
  exact Call.isRead_of_isLook looked

/-- A part that only creates may stand before one that creates first. -/
theorem CreatingFirst.bind {part : Provisioning α} {next : α → Provisioning β}
    (creates : part.Within Call.isCreate) (rest : ∀ value, (next value).CreatingFirst) :
    (part >>= next).CreatingFirst := by
  intro resources cancelled trace leftovers ended course
  have alone {early : List Occurrence} {noted : List String}
      {result : Except Failure (Except Failure α × Provisioned)}
      (first : (part resources).Course cancelled early noted result) :
      ∀ exchange ∈ exchanges early, exchange.call.isCreate = true :=
    (first.within (creates resources)).2
  have nothing : CreatesFirst [] := onlyAfter_nil
  rcases course_bind course with ⟨failure, -, failed⟩ | ⟨failure, after, -, failed⟩ |
    ⟨value, middle, early, late, noted, more, rfl, rfl, done, followed⟩
  · rw [← List.append_nil (exchanges trace)]
    exact createsFirst_append (alone failed) nothing
  · rw [← List.append_nil (exchanges trace)]
    exact createsFirst_append (alone failed) nothing
  · rw [exchanges_append]
    exact createsFirst_append (alone done) (rest value followed)

end Provisioning

end VolumeMigration
