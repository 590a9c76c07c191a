import Mathlib
import VolumeMigration.Proofs.Plan.Resources
import VolumeMigration.Proofs.Plan.Spending

/-!
# The limits of an attempt

An attempt waits for one thing after the other, each time as long as a limit of its own allows.
`Waits` is the path of a run from wait to wait, so that its time is at most the sum of the limits
(`Waits.spends`), and `Plan.Limited` says which waits the runs of a plan can come to.
-/

namespace VolumeMigration

variable {σ : Type}

/-- The waits of an attempt with their limits. -/
inductive WaitFor (pacing : Pacing) : {α : Type} → Plan α → Duration → Prop where
  | podReady (cluster : ClusterHandle) (pod : ResourceRef) :
      WaitFor pacing (waitPodReady pacing cluster pod) pacing.readinessLimit
  | podStarted (cluster : ClusterHandle) (pod : ResourceRef) :
      WaitFor pacing (waitPodStarted pacing cluster pod) pacing.readinessLimit
  | podSucceeded (cluster : ClusterHandle) (pod : ResourceRef) :
      WaitFor pacing (waitPodSucceeded pacing cluster pod) pacing.transferLimit
  | serviceIngress (cluster : ClusterHandle) (service : ResourceRef) :
      WaitFor pacing (waitServiceIngress pacing cluster service) pacing.readinessLimit

/-- Waiting spends no more than its limit, and looks once more than the interval goes into it. -/
theorem WaitFor.spends {pacing : Pacing} {α : Type} {plan : Plan α} {limit : Duration}
    (waitFor : WaitFor pacing plan limit) (environment : Environment σ) :
    plan.Spends environment limit (limit / pacing.pollInterval + 1) 0 := by
  cases waitFor with
  | podReady | podStarted | podSucceeded =>
      exact spends_pollUntil pacing.pollInterval_pos _ _ (spends_lookAtPod _ _ _)
  | serviceIngress cluster service =>
      exact spends_pollUntil pacing.pollInterval_pos _ _
        (Plan.spends_look cluster (.serviceIngress service.ns service.name) rfl)

/-- A run gets from one world to another through waits with some limits. In each of them no more
time passes than its limit, and there is at most one look more than the limit has intervals. Apart
from the waits no time passes, and a number of calls is made that are no looks. -/
inductive Waits (environment : Environment σ) (pacing : Pacing) :
    List Duration → Nat → World σ → World σ → Prop where
  | busy {before after : World σ} {others : Nat} (spends : before.Spends after 0 0 others) :
      Waits environment pacing [] others before after
  | wait {α : Type} {plan : Plan α} {limit : Duration} (waitFor : WaitFor pacing plan limit)
      (before : World σ)
      (spends : before.Spends (plan.run environment before).2 limit
        (limit / pacing.pollInterval + 1) 0) :
      Waits environment pacing [limit] 0 before (plan.run environment before).2
  | append {limits moreLimits : List Duration} {others moreOthers : Nat}
      {before middle after : World σ} (first : Waits environment pacing limits others before middle)
      (rest : Waits environment pacing moreLimits moreOthers middle after) :
      Waits environment pacing (limits ++ moreLimits) (others + moreOthers) before after

/-- How many looks waits with some limits come to. -/
def Pacing.looksWithin (pacing : Pacing) (limits : List Duration) : Nat :=
  (limits.map fun limit => limit / pacing.pollInterval + 1).sum

theorem Pacing.looksWithin_append (pacing : Pacing) (first second : List Duration) :
    pacing.looksWithin (first ++ second) =
      pacing.looksWithin first + pacing.looksWithin second := by
  simp [looksWithin]

/-- What is waited for adds up. -/
theorem Waits.spends {environment : Environment σ} {pacing : Pacing} {limits : List Duration}
    {others : Nat} {before after : World σ}
    (waits : Waits environment pacing limits others before after) :
    before.Spends after limits.sum (pacing.looksWithin limits) others := by
  induction waits with
  | busy spends => exact spends
  | wait waitFor before spends => simpa [Pacing.looksWithin] using spends
  | append first rest spent more =>
      rw [List.sum_append, Pacing.looksWithin_append]
      exact spent.trans more

namespace Plan

variable {α β : Type} {environment : Environment σ} {pacing : Pacing}

/-- Every run of a plan waits for some of the given limits, in their order, and makes no more than
a number of calls that are no looks. -/
def Limited (environment : Environment σ) (pacing : Pacing) (plan : Plan α)
    (limits : List Duration) (others : Nat) : Prop :=
  ∀ world : World σ, ∃ waited called, waited.Sublist limits ∧ called ≤ others ∧
    Waits environment pacing waited called world (plan.run environment world).2

theorem limited_of_prompt {plan : Plan α} {others : Nat} (prompt : plan.Prompt environment others) :
    plan.Limited environment pacing [] others :=
  fun world => ⟨[], others, List.Sublist.refl _, Nat.le_refl _, .busy (prompt world)⟩

/-- Waiting keeps to its limit. -/
theorem limited_wait {plan : Plan α} {limit : Duration} (waitFor : WaitFor pacing plan limit) :
    plan.Limited environment pacing [limit] 0 :=
  fun world => ⟨[limit], 0, List.Sublist.refl _, Nat.le_refl _,
    .wait waitFor world (waitFor.spends environment world)⟩

section Limited

variable {plan : Plan α} {next : α → Plan β} {limits moreLimits : List Duration}
  {others moreOthers : Nat}

theorem Limited.mono (limited : plan.Limited environment pacing limits others)
    (others_le : others ≤ moreOthers) : plan.Limited environment pacing limits moreOthers := by
  intro world
  rcases limited world with ⟨waited, called, some_limits, called_le, waits⟩
  exact ⟨waited, called, some_limits, Nat.le_trans called_le others_le, waits⟩

/-- The limits of parts that follow each other follow each other. -/
theorem Limited.bind (first : plan.Limited environment pacing limits others)
    (rest : ∀ value, (next value).Limited environment pacing moreLimits moreOthers) :
    (plan.bind next).Limited environment pacing (limits ++ moreLimits) (others + moreOthers) := by
  intro world
  rcases first world with ⟨waited, called, some_limits, called_le, waits⟩
  rw [run_bind]
  rcases ran : plan.run environment world with ⟨_ | value, middle⟩
  · -- the limits of what would have followed stay unused
    rw [ran] at waits
    refine ⟨waited, called, ?_, ?_, waits⟩
    · exact some_limits.trans (List.sublist_append_left _ _)
    · exact Nat.le_trans called_le (Nat.le_add_right _ _)
  · rw [ran] at waits
    rcases rest value middle with ⟨moreWaited, moreCalled, more_limits, moreCalled_le, moreWaits⟩
    refine ⟨waited ++ moreWaited, called + moreCalled, ?_, ?_, waits.append moreWaits⟩
    · exact some_limits.append more_limits
    · exact Nat.add_le_add called_le moreCalled_le

theorem Limited.attempt (limited : plan.Limited environment pacing limits others) :
    plan.attempt.Limited environment pacing limits others := by
  intro world
  rw [run_attempt]
  exact limited world

/-- A plan spends at most the sum of its limits. -/
theorem Limited.spends (limited : plan.Limited environment pacing limits others)
    (world : World σ) :
    world.Spends (plan.run environment world).2 limits.sum (pacing.looksWithin limits) others := by
  rcases limited world with ⟨waited, called, some_limits, called_le, waits⟩
  refine waits.spends.mono ?_ ?_ called_le
  · exact some_limits.sum_le_sum fun _ _ => Nat.zero_le _
  · exact (some_limits.map _).sum_le_sum fun _ _ => Nat.zero_le _

end Limited

end Plan

/-! ## Parts of an attempt -/

namespace Provisioning

variable {α β : Type} {environment : Environment σ} {pacing : Pacing}

/-- A part of an attempt keeps to its limits, whatever was created before. -/
def Limited (environment : Environment σ) (pacing : Pacing) (part : Provisioning α)
    (limits : List Duration) (others : Nat) : Prop :=
  ∀ resources, (part resources).Limited environment pacing limits others

theorem Limited.bind {part : Provisioning α} {next : α → Provisioning β}
    {limits moreLimits : List Duration} {others moreOthers : Nat}
    (first : part.Limited environment pacing limits others)
    (rest : ∀ value, (next value).Limited environment pacing moreLimits moreOthers) :
    (part >>= next).Limited environment pacing (limits ++ moreLimits) (others + moreOthers) := by
  intro resources
  refine (first resources).bind fun outcome => ?_
  rcases outcome with ⟨failure | value, after⟩
  · intro world
    exact ⟨[], 0, List.nil_sublist _, Nat.zero_le _, .busy (.refl world)⟩
  · exact rest value after

theorem limited_ofExcept (result : Except Failure α) :
    (ofExcept result).Limited environment pacing [] 0 :=
  fun _ => Plan.limited_of_prompt (Plan.prompt_done _)

theorem limited_lift {plan : Plan α} {limits : List Duration} {others : Nat}
    (limited : plan.Limited environment pacing limits others) :
    (lift plan).Limited environment pacing limits others := by
  intro resources
  have followed := limited.attempt.bind fun outcome =>
    Plan.limited_of_prompt (Plan.prompt_done (outcome, resources))
  rw [List.append_nil] at followed
  exact followed

theorem prompt_creation (cluster : ClusterHandle) (object : ClusterObject) :
    (creation cluster object).Prompt environment 1 := by
  refine Plan.Prompt.mono (Plan.prompt_checkToken.bind fun _ =>
    Plan.Prompt.bind (Plan.Spends.attempt (Plan.prompt_ask cluster (.create object) rfl))
      fun answer => (?_ : Plan.Prompt environment _ 0)) (Nat.le_refl 1)
  cases answer with
  | ok resource => exact Plan.prompt_done resource
  | error failure => exact Plan.prompt_fail _

/-- A creation makes one call and waits for nothing. -/
theorem limited_create (cluster : ClusterHandle) (object : ClusterObject) :
    (create cluster object).Limited environment pacing [] 1 := by
  intro resources
  have created : (creation cluster object).attempt.Prompt environment 1 :=
    Plan.Spends.attempt (prompt_creation cluster object)
  refine Plan.limited_of_prompt (created.bind fun outcome => (?_ : Plan.Prompt environment _ 0))
  cases outcome <;> exact Plan.prompt_done _

end Provisioning

/-- A release makes one call for each resource. -/
theorem Provisioned.prompt_releaseAll {environment : Environment σ}
    (resources : List (ClusterHandle × ResourceRef)) :
    (releaseAll resources).Prompt environment resources.length := by
  induction resources with
  | nil => exact Plan.prompt_done ()
  | cons resource rest ih =>
      rcases resource with ⟨cluster, resource⟩
      have asked : (Plan.ask cluster (.delete resource)).attempt.Prompt environment 1 :=
        Plan.Spends.attempt (Plan.prompt_ask cluster (.delete resource) rfl)
      refine Plan.Prompt.mono
        (asked.bind fun answer => (?_ : Plan.Prompt environment _ rest.length)) ?_
      · cases answer with
        | ok done => exact ih
        | error failure =>
            refine Plan.Prompt.mono ((Plan.prompt_warn _).bind fun _ =>
              (Plan.prompt_noteLeftover _).bind fun _ => ih) ?_
            simp
      · simp [Nat.add_comm]

/-- There are no more creations than calls that do not look at anything. -/
theorem length_creations_le (made : List Exchange) : (creations made).length ≤ otherCount made := by
  rw [creations, List.length_filterMap_eq_countP]
  apply List.countP_mono_left
  intro exchange _ created
  rcases exchange with ⟨cluster, call, result⟩
  cases call <;> simp_all [Exchange.creation?, Call.isLook]

/-- An attempt waits as its transfer does, and the release adds at most one call for every call
that the transfer made. -/
theorem limited_withResources {environment : Environment σ} {pacing : Pacing}
    {transfer : Provisioning Unit} {limits : List Duration} {others : Nat}
    (accountable : transfer.Accountable)
    (limited : transfer.Limited environment pacing limits others) :
    (withResources transfer).Limited environment pacing limits (others + others) := by
  intro world
  rcases limited .empty world with ⟨waited, called, some_limits, called_le, waits⟩
  rcases Plan.run_course environment (transfer .empty) world with
    ⟨work, noted, course, follows, -⟩
  rcases accountable _ _ _ _ _ course with ⟨outcome, resources, ended, accounts⟩
  rcases waits.spends.called with ⟨trace, followed, -, others_le⟩
  rcases transferring : (transfer .empty).run environment world with ⟨result, middle⟩
  rw [transferring] at waits follows followed ended
  cases ended
  have created_le : resources.created.length ≤ called := by
    rw [← followed.since, follows.since] at others_le
    have counted := length_creations_le (exchanges work)
    have created : resources.created = (creations (exchanges work)).reverse := by
      simpa [Provisioned.empty] using accounts.created
    rw [created, List.length_reverse]
    exact Nat.le_trans counted others_le
  have released : ((resources.release).bind fun _ => Plan.ofExcept outcome).Prompt environment
      resources.created.length :=
    (Provisioned.prompt_releaseAll resources.created).bind fun _ => Plan.prompt_ofExcept outcome
  have run_eq : (withResources transfer).run environment world =
      ((resources.release).bind fun _ => Plan.ofExcept outcome).run environment middle := by
    change ((transfer .empty).bind _).run environment world = _
    rw [Plan.run_bind, transferring]
    rfl
  rw [run_eq]
  refine ⟨waited ++ [], called + resources.created.length, ?_, ?_,
    waits.append (.busy (released middle))⟩
  · rw [List.append_nil]
    exact some_limits
  · omega

end VolumeMigration
