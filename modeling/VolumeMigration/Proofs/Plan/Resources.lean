import VolumeMigration.Proofs.Plan.Calls
import VolumeMigration.Provisioning

/-!
# The resources of an attempt

`Provisioning.Accountable` is the invariant of every part of an attempt: whatever the clusters
answer, the part ends, it deletes nothing, and the resources that it knows of are exactly those
that were created, the last one first. It is kept by continuing, so that it holds of whole
transfers; `run_withResources` derives from it that what a transfer created is deleted afterwards.
-/

namespace VolumeMigration

namespace Exchange

/-- The resource that an exchange created, with its cluster. -/
def creation? : Exchange → Option (ClusterHandle × ResourceRef)
  | ⟨cluster, .create _, .ok resource⟩ => some (cluster, resource)
  | _ => none

/-- The resource that an exchange was to delete, with the cluster that was asked. -/
def deletion? : Exchange → Option (ClusterHandle × ResourceRef)
  | ⟨cluster, .delete resource, _⟩ => some (cluster, resource)
  | _ => none

/-- What is noted about an exchange that failed to delete a resource. -/
def leftover? : Exchange → Option String
  | ⟨_, .delete resource, .error failure⟩ =>
      some (Failure.teardown resource.text failure.message).message
  | _ => none

theorem creation?_of_isRead {exchange : Exchange} (read : exchange.call.isRead = true) :
    exchange.creation? = none := by
  rcases exchange with ⟨_, _ | _ | _ | _ | _ | _, _⟩ <;>
    simp_all [creation?, Call.isRead, Call.isProbe, Call.isLook]

theorem creation?_of_isDelete {exchange : Exchange} (delete : exchange.call.isDelete = true) :
    exchange.creation? = none := by
  rcases exchange with ⟨_, _ | _ | _ | _ | _ | _, _⟩ <;>
    simp_all [creation?, Call.isDelete]

theorem deletion?_of_isRead {exchange : Exchange} (read : exchange.call.isRead = true) :
    exchange.deletion? = none := by
  rcases exchange with ⟨_, _ | _ | _ | _ | _ | _, _⟩ <;>
    simp_all [deletion?, Call.isRead, Call.isProbe, Call.isLook]

end Exchange

/-- The resources that some calls created, with their clusters and in order. -/
def creations (calls : List Exchange) : List (ClusterHandle × ResourceRef) :=
  calls.filterMap Exchange.creation?

@[simp]
theorem creations_nil : creations [] = [] :=
  rfl

@[simp]
theorem creations_append (first second : List Exchange) :
    creations (first ++ second) = creations first ++ creations second :=
  List.filterMap_append

/-- Calls that only read create nothing. -/
theorem creations_of_reads {calls : List Exchange}
    (reads : ∀ exchange ∈ calls, exchange.call.isRead = true) : creations calls = [] := by
  simp only [creations, List.filterMap_eq_nil_iff]
  intro exchange exchange_mem
  exact Exchange.creation?_of_isRead (reads exchange exchange_mem)

namespace Provisioning

variable {α β : Type}

/-- What a part of an attempt does to the resources that it starts with: the new ones are exactly
those that were created, and nothing is deleted or left over. -/
structure Accounts (resources : Provisioned) (trace : List Occurrence)
    (leftovers : List String) (after : Provisioned) : Prop where
  created : after.created = (creations (exchanges trace)).reverse ++ resources.created
  undeleted : ∀ exchange ∈ exchanges trace, exchange.deletion? = none
  cleared : leftovers = []

/-- A part of an attempt that always ends and accounts for what it created. -/
def Accountable (part : Provisioning α) : Prop :=
  ∀ (resources : Provisioned) (cancelled : Bool) (trace : List Occurrence)
    (leftovers : List String) (result : Except Failure (Except Failure α × Provisioned)),
    (part resources).Course cancelled trace leftovers result →
      ∃ outcome after, result = .ok (outcome, after) ∧ Accounts resources trace leftovers after

theorem Accounts.refl (resources : Provisioned) : Accounts resources [] [] resources :=
  ⟨by simp, by simp, rfl⟩

/-- What is accounted for in two parts is accounted for in both together. -/
theorem Accounts.trans {resources middle after : Provisioned} {first second : List Occurrence}
    {noted leftovers : List String} (left : Accounts resources first noted middle)
    (right : Accounts middle second leftovers after) :
    Accounts resources (first ++ second) (noted ++ leftovers) after := by
  refine ⟨?_, ?_, by simp [left.cleared, right.cleared]⟩
  · rw [right.created, left.created, exchanges_append, creations_append, List.reverse_append,
      List.append_assoc]
  · intro exchange exchange_mem
    rw [exchanges_append, List.mem_append] at exchange_mem
    exact exchange_mem.elim (left.undeleted exchange) (right.undeleted exchange)

theorem accountable_ofExcept (result : Except Failure α) : (ofExcept result).Accountable := by
  intro resources cancelled trace leftovers ended course
  rcases Plan.course_done_iff.mp course with ⟨rfl, rfl, rfl⟩
  exact ⟨_, _, rfl, .refl resources⟩

/-- A plan that only reads has nothing to account for. -/
theorem accountable_lift {plan : Plan α} (reads : plan.Within Call.isRead) :
    (lift plan).Accountable := by
  intro resources cancelled trace leftovers result course
  rcases course.of_attempt_bind with ⟨outcome, first, second, noted, more, rfl, rfl, ended, rest⟩
  rcases Plan.course_done_iff.mp rest with ⟨rfl, rfl, rfl⟩
  rcases ended.within reads with ⟨rfl, calls⟩
  refine ⟨_, _, rfl, ?_, ?_, rfl⟩
  · simp [creations_of_reads calls]
  · intro exchange exchange_mem
    exact Exchange.deletion?_of_isRead (calls exchange (by simpa using exchange_mem))

/-- A continued part fails as its first part does, or goes on where that ended. -/
theorem course_bind {part : Provisioning α} {next : α → Provisioning β} {resources : Provisioned}
    {cancelled : Bool} {trace : List Occurrence} {leftovers : List String}
    {ended : Except Failure (Except Failure β × Provisioned)}
    (course : ((part >>= next) resources).Course cancelled trace leftovers ended) :
    (∃ failure, ended = .error failure ∧
        (part resources).Course cancelled trace leftovers (.error failure)) ∨
      (∃ failure after, ended = .ok (.error failure, after) ∧
        (part resources).Course cancelled trace leftovers (.ok (.error failure, after))) ∨
      ∃ value middle first second noted more, trace = first ++ second ∧ leftovers = noted ++ more ∧
        (part resources).Course cancelled first noted (.ok (.ok value, middle)) ∧
        (next value middle).Course (cancelledAfter cancelled first) second more ended := by
  rcases course.of_bind with failed |
    ⟨⟨outcome, middle⟩, first, second, noted, more, rfl, rfl, done, followed⟩
  · exact .inl failed
  · rcases outcome with failure | value
    · rcases Plan.course_done_iff.mp followed with ⟨rfl, rfl, rfl⟩
      rw [List.append_nil, List.append_nil]
      exact .inr (.inl ⟨failure, middle, rfl, done⟩)
    · exact .inr (.inr ⟨value, middle, first, second, noted, more, rfl, rfl, done, followed⟩)

/-- A part of an attempt that ends well has gone through both of its own parts. -/
theorem course_bind_ok {part : Provisioning α} {next : α → Provisioning β}
    {resources after : Provisioned} {cancelled : Bool} {trace : List Occurrence}
    {leftovers : List String} {result : β}
    (course : ((part >>= next) resources).Course cancelled trace leftovers
      (.ok (.ok result, after))) :
    ∃ value middle first second noted more, trace = first ++ second ∧ leftovers = noted ++ more ∧
      (part resources).Course cancelled first noted (.ok (.ok value, middle)) ∧
      (next value middle).Course (cancelledAfter cancelled first) second more
        (.ok (.ok result, after)) := by
  rcases course_bind course with ⟨_, impossible, -⟩ | ⟨_, _, impossible, -⟩ | parts
  · cases impossible
  · cases impossible
  · exact parts

/-- A part of an attempt is accountable if its parts are. -/
theorem Accountable.bind {part : Provisioning α} {next : α → Provisioning β}
    (first : part.Accountable) (rest : ∀ value, (next value).Accountable) :
    (part >>= next).Accountable := by
  intro resources cancelled trace leftovers result course
  rcases course_bind course with ⟨failure, rfl, failed⟩ | ⟨failure, after, rfl, failed⟩ |
    ⟨value, middle, early, late, noted, more, rfl, rfl, done, followed⟩
  · rcases first _ _ _ _ _ failed with ⟨_, _, impossible, -⟩
    cases impossible
  · rcases first _ _ _ _ _ failed with ⟨_, _, same, accounts⟩
    cases same
    exact ⟨_, _, rfl, accounts⟩
  · rcases first _ _ _ _ _ done with ⟨_, _, same, accounts⟩
    cases same
    rcases rest value _ _ _ _ _ followed with ⟨outcome, after, rfl, others⟩
    exact ⟨outcome, after, rfl, accounts.trans others⟩

/-- What can come of the creation of an object: it ends at once if the token is cancelled, and
otherwise makes the one call that creates the object. -/
inductive Creating (cluster : ClusterHandle) (object : ClusterObject) : Bool →
    List Occurrence → Except Failure ResourceRef → Prop where
  | cancelled : Creating cluster object true [] (.error .cancelled)
  | created {trace : List Occurrence} {resource : ResourceRef}
      (asking : Plan.Asking cluster (.create object) (.ok resource) false trace) :
      Creating cluster object false trace (.ok resource)
  | refused {trace : List Occurrence} {refusal failure : Failure}
      (asking : Plan.Asking cluster (.create object) (.error refusal) false trace)
      (kind : failure.kind = .provisioningFailed) :
      Creating cluster object false trace (.error failure)

/-- A creation checks the token and then asks for its object, or does not ask at all. -/
theorem course_creation {cluster : ClusterHandle} {object : ClusterObject} {cancelled : Bool}
    {trace : List Occurrence} {leftovers : List String} {outcome : Except Failure ResourceRef}
    (course : (creation cluster object).Course cancelled trace leftovers outcome) :
    leftovers = [] ∧ Creating cluster object cancelled trace outcome := by
  rcases course.of_bind with ⟨failure, rfl, check⟩ |
    ⟨_, first, second, noted, more, rfl, rfl, check, asked⟩
  · rcases check.of_checkToken with ⟨rfl, rfl, failed⟩
    cases cancelled with
    | false => cases failed
    | true =>
        cases failed
        exact ⟨rfl, .cancelled⟩
  · rcases check.of_checkToken with ⟨rfl, rfl, passed⟩
    cases cancelled with
    | true => cases passed
    | false =>
        rcases asked.of_attempt_bind with
          ⟨result, first, second, noted, more, rfl, rfl, ask, rest⟩
        rcases ask.of_ask with ⟨rfl, asking⟩
        rcases result with refusal | resource
        · rcases Plan.course_fail_iff.mp rest with ⟨rfl, rfl, rfl⟩
          exact ⟨rfl, .refused (by simpa using asking) rfl⟩
        · rcases Plan.course_done_iff.mp rest with ⟨rfl, rfl, rfl⟩
          exact ⟨rfl, .created (by simpa using asking)⟩

/-- An object that was created is kept among the resources, and nothing else is. -/
theorem course_create {cluster : ClusterHandle} {object : ClusterObject}
    {resources : Provisioned} {cancelled : Bool} {trace : List Occurrence}
    {leftovers : List String} {result : Except Failure (Except Failure ResourceRef × Provisioned)}
    (course : (create cluster object resources).Course cancelled trace leftovers result) :
    leftovers = [] ∧ ∃ outcome, Creating cluster object cancelled trace outcome ∧
      result = .ok (outcome,
        match outcome with
        | .ok resource => resources.push cluster resource
        | .error _ => resources) := by
  rcases course.of_attempt_bind with
    ⟨outcome, first, second, noted, more, rfl, rfl, created, rest⟩
  rcases course_creation created with ⟨rfl, creating⟩
  rcases outcome with failure | resource
  · rcases Plan.course_done_iff.mp rest with ⟨rfl, rfl, rfl⟩
    exact ⟨rfl, _, by simpa using creating, rfl⟩
  · rcases Plan.course_done_iff.mp rest with ⟨rfl, rfl, rfl⟩
    exact ⟨rfl, _, by simpa using creating, rfl⟩

/-- A creation that ends well asked for its object alone. -/
theorem course_create_ok {cluster : ClusterHandle} {object : ClusterObject}
    {resources after : Provisioned} {cancelled : Bool} {trace : List Occurrence}
    {leftovers : List String} {resource : ResourceRef}
    (course : (create cluster object resources).Course cancelled trace leftovers
      (.ok (.ok resource, after))) :
    exchanges trace = [⟨cluster, .create object, .ok resource⟩] := by
  rcases course_create course with ⟨-, outcome, creating, same⟩
  cases creating with
  | cancelled => cases same
  | refused => cases same
  | created asking =>
      cases same
      exact asking.exchanges

/-- A creation accounts for its object. -/
theorem accountable_create (cluster : ClusterHandle) (object : ClusterObject) :
    (create cluster object).Accountable := by
  intro resources cancelled trace leftovers result course
  rcases course_create course with ⟨rfl, outcome, creating, rfl⟩
  refine ⟨_, _, rfl, ?_⟩
  cases creating with
  | cancelled => exact .refl resources
  | created asking =>
      refine ⟨?_, ?_, rfl⟩ <;>
        simp [asking.exchanges, creations, Exchange.creation?, Exchange.deletion?,
          Provisioned.push]
  | refused asking _ =>
      refine ⟨?_, ?_, rfl⟩ <;>
        simp [asking.exchanges, creations, Exchange.creation?, Exchange.deletion?]

/-- A part of an attempt makes allowed calls only, whatever was created before. -/
def Within (allowed : Call → Bool) (part : Provisioning α) : Prop :=
  ∀ resources, (part resources).Within allowed

section Within

variable {allowed : Call → Bool}

theorem Within.bind {part : Provisioning α} {next : α → Provisioning β}
    (first : part.Within allowed) (rest : ∀ value, (next value).Within allowed) :
    (part >>= next).Within allowed := by
  intro resources
  refine (first resources).bind fun outcome => ?_
  rcases outcome with ⟨failure | value, after⟩
  · trivial
  · exact rest value after

theorem within_ofExcept (result : Except Failure α) : (ofExcept result).Within allowed :=
  fun _ => trivial

theorem within_lift {plan : Plan α} (within : plan.Within allowed) :
    (lift plan).Within allowed :=
  fun _ => within.attempt.bind fun _ => trivial

theorem within_create (cluster : ClusterHandle) {object : ClusterObject}
    (permitted : allowed (.create object) = true) :
    (create cluster object).Within allowed := by
  intro resources
  have created : (creation cluster object).Within allowed := by
    refine Plan.within_checkToken.bind fun _ => (Plan.within_ask cluster permitted).attempt.bind
      fun answer => ?_
    cases answer <;> trivial
  refine created.attempt.bind fun outcome => ?_
  cases outcome <;> trivial

end Within

/-- A part that starts with a result fails as that did, or goes on from there. -/
theorem course_ofExcept_bind {result : Except Failure α} {next : α → Provisioning β}
    {resources : Provisioned} {cancelled : Bool} {trace : List Occurrence}
    {leftovers : List String} {ended : Except Failure (Except Failure β × Provisioned)}
    (course : ((ofExcept result >>= next) resources).Course cancelled trace leftovers ended) :
    (∃ failure, result = .error failure ∧ trace = [] ∧
        ended = .ok (.error failure, resources)) ∨
      ∃ value, result = .ok value ∧
        (next value resources).Course cancelled trace leftovers ended := by
  rcases result with failure | value
  · rcases Plan.course_done_iff.mp course with ⟨rfl, rfl, rfl⟩
    exact .inl ⟨failure, rfl, rfl, rfl⟩
  · exact .inr ⟨value, rfl, course⟩

/-- A part that starts by following a plan fails as that did, or goes on from there. -/
theorem course_lift_bind {plan : Plan α} {next : α → Provisioning β} {resources : Provisioned}
    {cancelled : Bool} {trace : List Occurrence} {leftovers : List String}
    {ended : Except Failure (Except Failure β × Provisioned)}
    (course : ((lift plan >>= next) resources).Course cancelled trace leftovers ended) :
    (∃ failure, plan.Course cancelled trace leftovers (.error failure) ∧
        ended = .ok (.error failure, resources)) ∨
      ∃ value first second noted more, trace = first ++ second ∧ leftovers = noted ++ more ∧
        plan.Course cancelled first noted (.ok value) ∧
        (next value resources).Course (cancelledAfter cancelled first) second more ended := by
  change (((plan.attempt).bind _).bind _).Course cancelled trace leftovers ended at course
  rw [Plan.bind_assoc] at course
  rcases course.of_attempt_bind with
    ⟨outcome, first, second, noted, more, rfl, rfl, followed, rest⟩
  rcases outcome with failure | value
  · rcases Plan.course_done_iff.mp rest with ⟨rfl, rfl, rfl⟩
    exact .inl ⟨failure, by simpa using followed, rfl⟩
  · exact .inr ⟨value, first, second, noted, more, rfl, rfl, followed, rest⟩

end Provisioning

/-! ## Releasing -/

namespace Provisioned

theorem course_noted {message leftover : String} {rest : Plan Unit} {cancelled : Bool}
    {trace : List Occurrence} {leftovers : List String} {outcome : Except Failure Unit}
    (course : ((Plan.warn message).bind fun _ => (Plan.noteLeftover leftover).bind fun _ =>
      rest).Course cancelled trace leftovers outcome) :
    ∃ first second more, trace = first ++ second ∧ leftovers = leftover :: more ∧
      exchanges first = [] ∧ rest.Course (cancelledAfter cancelled first) second more outcome := by
  rcases course.of_bind with ⟨failure, -, warned⟩ |
    ⟨_, first, second, noted, more, rfl, rfl, warned, noting⟩
  · rcases warned.of_warn with ⟨-, -, impossible⟩
    cases impossible
  · rcases warned.of_warn with ⟨rfl, rfl, -⟩
    rcases noting.of_bind with ⟨failure, -, told⟩ |
      ⟨_, silent, later, noted, more, rfl, rfl, told, followed⟩
    · rcases told.of_noteLeftover with ⟨-, -, impossible⟩
      cases impossible
    · rcases told.of_noteLeftover with ⟨rfl, rfl, -⟩
      exact ⟨_, later, more, rfl, rfl, rfl, by simpa using followed⟩

/-- Every resource is deleted, in order and whatever comes of it, and those that cannot be deleted
are noted as left over. -/
theorem course_releaseAll {resources : List (ClusterHandle × ResourceRef)}
    {cancelled : Bool} {trace : List Occurrence} {leftovers : List String}
    {outcome : Except Failure Unit}
    (course : (releaseAll resources).Course cancelled trace leftovers outcome) :
    outcome = .ok () ∧ (exchanges trace).map Exchange.deletion? = resources.map some ∧
      leftovers = (exchanges trace).filterMap Exchange.leftover? := by
  induction resources generalizing cancelled trace leftovers with
  | nil =>
      rcases Plan.course_done_iff.mp course with ⟨rfl, rfl, rfl⟩
      exact ⟨rfl, rfl, rfl⟩
  | cons resource rest ih =>
      rcases resource with ⟨cluster, resource⟩
      rcases course.of_attempt_bind with
        ⟨result, asked, later, noted, more, rfl, rfl, ask, next⟩
      rcases ask.of_ask with ⟨rfl, asking⟩
      rcases result with failure | done
      · rcases course_noted next with ⟨first, second, more, rfl, rfl, silent, released⟩
        rcases ih released with ⟨rfl, deleted, rfl⟩
        refine ⟨rfl, ?_, ?_⟩
        · simp [asking.exchanges, silent, deleted, Exchange.deletion?]
        · simp [asking.exchanges, silent, Exchange.leftover?]
      · rcases ih next with ⟨rfl, deleted, rfl⟩
        refine ⟨rfl, ?_, ?_⟩
        · simp [asking.exchanges, deleted, Exchange.deletion?]
        · rw [exchanges_append, asking.exchanges]
          rfl

end Provisioned

/-- Calls that delete some resources do nothing but delete. -/
theorem isDelete_of_deletions {calls : List Exchange}
    {resources : List (ClusterHandle × ResourceRef)}
    (deleted : calls.map Exchange.deletion? = resources.map some) :
    ∀ exchange ∈ calls, exchange.call.isDelete = true := by
  intro exchange exchange_mem
  have deletion_mem : exchange.deletion? ∈ calls.map Exchange.deletion? :=
    List.mem_map_of_mem exchange_mem
  rw [deleted, List.mem_map] at deletion_mem
  rcases deletion_mem with ⟨resource, -, deletion⟩
  rcases exchange with ⟨_, _ | _ | _ | _ | _ | _, _⟩ <;>
    simp_all [Exchange.deletion?, Call.isDelete]

/-- An attempt whose transfer accounts for its resources works first and then deletes exactly
these. It ends well only if the transfer does. -/
theorem course_withResources {transfer : Provisioning Unit} (accountable : transfer.Accountable)
    {cancelled : Bool} {trace : List Occurrence} {leftovers : List String}
    {outcome : Except Failure Unit}
    (course : (withResources transfer).Course cancelled trace leftovers outcome) :
    ∃ work teardown noted result resources, trace = work ++ teardown ∧
      (transfer .empty).Course cancelled work noted (.ok (result, resources)) ∧
      (exchanges teardown).map Exchange.deletion? = resources.created.map some ∧
      (outcome = .ok () → result = .ok ()) := by
  rcases course.of_bind with ⟨failure, -, failed⟩ |
    ⟨⟨result, resources⟩, work, rest, noted, more, rfl, rfl, worked, releasing⟩
  · rcases accountable _ _ _ _ _ failed with ⟨_, _, impossible, -⟩
    cases impossible
  · refine ⟨work, rest, noted, result, resources, rfl, worked, ?_⟩
    rcases releasing.of_bind with ⟨failure, failed, stopped⟩ |
      ⟨_, teardown, silent, _, _, rfl, rfl, deleting, ended⟩
    · refine ⟨(Provisioned.course_releaseAll stopped).2.1, ?_⟩
      intro well
      cases failed.symm.trans well
    · rcases Plan.course_ofExcept_iff.mp ended with ⟨rfl, -, same⟩
      rw [List.append_nil]
      exact ⟨(Provisioned.course_releaseAll deleting).2.1, fun well => same.symm.trans well⟩

theorem Plan.run_ofExcept {σ α : Type} (environment : Environment σ) (result : Except Failure α)
    (world : World σ) : (ofExcept result).run environment world = (result, world) := by
  cases result <;> rfl

/-- How a transfer is run and what it created is released: from `world` to `middle` the transfer
works, and from there to `after` exactly the resources that it created are deleted, the last one
first. -/
structure Released {σ : Type} (environment : Environment σ) (transfer : Provisioning Unit)
    (world middle after : World σ) (outcome : Except Failure Unit)
    (work teardown : List Occurrence) : Prop where
  transferred : ∃ resources,
    (transfer .empty).run environment world = (.ok (outcome, resources), middle)
  working : world.Follows middle work
  releasing : middle.Follows after teardown
  undeleted : ∀ exchange ∈ exchanges work, exchange.deletion? = none
  deleted : (exchanges teardown).map Exchange.deletion? =
    (creations (exchanges work)).reverse.map some
  leftovers : after.leftovers = world.leftovers ++ (exchanges teardown).filterMap Exchange.leftover?

/-- An attempt whose transfer accounts for its resources releases them and ends as the transfer
did. -/
theorem run_withResources {σ : Type} (environment : Environment σ) {transfer : Provisioning Unit}
    (accountable : transfer.Accountable) (world : World σ) :
    ∃ middle work teardown,
      Released environment transfer world middle
        ((withResources transfer).run environment world).2
        ((withResources transfer).run environment world).1 work teardown := by
  rcases Plan.run_course environment (transfer .empty) world with
    ⟨work, noted, course, working, kept⟩
  rcases accountable _ _ _ _ _ course with ⟨outcome, resources, ended, accounts⟩
  rcases transferring : (transfer .empty).run environment world with ⟨result, middle⟩
  rw [transferring] at working kept ended
  cases ended
  rcases Plan.run_course environment resources.release middle with
    ⟨teardown, failures, releasing, following, told⟩
  rcases Provisioned.course_releaseAll releasing with ⟨done, deleted, rfl⟩
  rcases release : resources.release.run environment middle with ⟨result, after⟩
  rw [release] at following told done
  cases done
  have withResources_run : (withResources transfer).run environment world = (outcome, after) := by
    change ((transfer .empty).bind _).run environment world = _
    rw [Plan.run_bind, transferring]
    change (resources.release.bind fun _ => Plan.ofExcept outcome).run environment middle = _
    rw [Plan.run_bind, release]
    exact Plan.run_ofExcept environment outcome after
  rw [withResources_run]
  refine ⟨middle, work, teardown, ⟨resources, transferring⟩, working, following,
    accounts.undeleted, ?_, ?_⟩
  · rw [deleted, accounts.created]
    simp [Provisioned.empty]
  · have nothing_left : middle.leftovers = world.leftovers := by
      simpa [accounts.cleared] using kept
    rw [← nothing_left]
    exact told

end VolumeMigration
