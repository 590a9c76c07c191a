import VolumeMigration.Provisioning
import VolumeMigration.World

/-!
# Plans in related worlds

Two plans are compared by a relation between worlds: from related worlds they lead to related worlds
and end in the same way (`Plan.Relates`). A relation that no action can see through is
`World.Hidden`, and then a plan relates to itself.
-/

namespace VolumeMigration

variable {σ : Type} {worlds : World σ → World σ → Prop} {environment : Environment σ}

/-- Related worlds show the same time, the same token and the same failures to delete, and they stay
related when one of these changes, or when the same occurs in both. -/
structure World.Concordant (worlds : World σ → World σ → Prop) : Prop where
  clock : ∀ {left right}, worlds left right → left.clock = right.clock
  cancelled : ∀ {left right}, worlds left right → left.cancelled = right.cancelled
  leftovers : ∀ {left right}, worlds left right → left.leftovers = right.leftovers
  wait : ∀ {left right}, worlds left right → ∀ clock,
    worlds { left with clock } { right with clock }
  interrupt : ∀ {left right}, worlds left right → ∀ cancelled,
    worlds { left with cancelled } { right with cancelled }
  note : ∀ {left right}, worlds left right → ∀ leftovers,
    worlds { left with leftovers } { right with leftovers }
  record : ∀ {left right}, worlds left right → ∀ occurrence,
    worlds (left.record occurrence) (right.record occurrence)

/-- The relation is hidden from the clusters as well: they answer every call in both worlds in the
same way. -/
structure World.Hidden (environment : Environment σ) (worlds : World σ → World σ → Prop) : Prop
    extends World.Concordant worlds where
  ask : ∀ {left right}, worlds left right → ∀ cluster call,
    (left.ask environment cluster call).1 = (right.ask environment cluster call).1 ∧
      worlds (left.ask environment cluster call).2 (right.ask environment cluster call).2

namespace World

variable {left right : World σ}

theorem Concordant.cancel (concordant : Concordant worlds) (related : worlds left right) :
    worlds left.cancel right.cancel := by
  unfold World.cancel
  rw [concordant.cancelled related]
  split
  · exact related
  · exact concordant.interrupt (concordant.record related .cancellation) true

/-- Related worlds pause alike. -/
theorem Concordant.pause (concordant : Concordant worlds) (related : worlds left right)
    (environment : Environment σ) (length : Duration) :
    (left.pause environment length).1 = (right.pause environment length).1 ∧
      worlds (left.pause environment length).2 (right.pause environment length).2 := by
  have waited := concordant.wait related
  rcases left with ⟨_, clock, cancelled, _, _⟩
  rcases right with ⟨_, _, _, _, _⟩
  cases concordant.clock related
  cases concordant.cancelled related
  unfold World.pause
  dsimp only
  split
  · exact ⟨rfl, related⟩
  · split
    · exact ⟨rfl, waited _⟩
    · split
      · exact ⟨rfl, concordant.cancel (waited _)⟩
      · exact ⟨rfl, waited _⟩

/-- No action tells related worlds apart. -/
theorem Hidden.perform (hidden : Hidden environment worlds) (related : worlds left right)
    (action : Action) :
    (left.perform environment action).1 = (right.perform environment action).1 ∧
      worlds (left.perform environment action).2 (right.perform environment action).2 := by
  cases action with
  | ask cluster call => exact hidden.ask related cluster call
  | lookAtToken => exact ⟨hidden.cancelled related, related⟩
  | cancelToken => exact ⟨rfl, hidden.cancel related⟩
  | pause length => exact hidden.pause related environment length
  | log entry => exact ⟨rfl, hidden.record related (.logged entry)⟩
  | noteLeftover failure =>
      refine ⟨rfl, ?_⟩
      change worlds { left with leftovers := left.leftovers ++ [failure] }
        { right with leftovers := right.leftovers ++ [failure] }
      rw [hidden.leftovers related]
      exact hidden.note related _

end World

/-! ## Plans -/

namespace Plan

variable {α β : Type}

/-- Two plans lead from related worlds to related worlds and end in the same way. -/
def Relates (environment : Environment σ) (worlds : World σ → World σ → Prop)
    (plan other : Plan α) : Prop :=
  ∀ ⦃left right : World σ⦄, worlds left right →
    (plan.run environment left).1 = (other.run environment right).1 ∧
      worlds (plan.run environment left).2 (other.run environment right).2

/-- A plan that sees nothing of what differs relates to itself. -/
theorem Relates.refl (hidden : World.Hidden environment worlds) (plan : Plan α) :
    plan.Relates environment worlds plan := by
  induction plan with
  | done value => exact fun _ _ related => ⟨rfl, related⟩
  | fail failure => exact fun _ _ related => ⟨rfl, related⟩
  | step action next ih =>
      intro left right related
      rcases hidden.perform related action with ⟨replied, performed⟩
      simp only [run, replied]
      exact ih _ performed

/-- Plans are related if their parts are. -/
theorem Relates.bind {plan other : Plan α} {next otherNext : α → Plan β}
    (first : plan.Relates environment worlds other)
    (rest : ∀ value, (next value).Relates environment worlds (otherNext value)) :
    (plan.bind next).Relates environment worlds (other.bind otherNext) := by
  intro left right related
  rcases first related with ⟨same, after⟩
  rw [run_bind, run_bind]
  rcases ran : plan.run environment left with ⟨result, first⟩
  rcases otherRan : other.run environment right with ⟨_, second⟩
  rw [ran, otherRan] at same after
  cases same
  cases result with
  | error failure => exact ⟨rfl, after⟩
  | ok value => exact rest value after

theorem Relates.attempt {plan other : Plan α} (relates : plan.Relates environment worlds other) :
    plan.attempt.Relates environment worlds other.attempt := by
  intro left right related
  rw [run_attempt, run_attempt]
  rcases relates related with ⟨same, after⟩
  exact ⟨congrArg Except.ok same, after⟩

end Plan

/-! ## Parts of an attempt -/

namespace Provisioning

variable {α β : Type}

/-- Two parts of an attempt keep worlds related, if both have created the same before. -/
def Relates (environment : Environment σ) (worlds : World σ → World σ → Prop)
    (part other : Provisioning α) : Prop :=
  ∀ resources, (part resources).Relates environment worlds (other resources)

theorem Relates.refl (hidden : World.Hidden environment worlds) (part : Provisioning α) :
    part.Relates environment worlds part :=
  fun resources => Plan.Relates.refl hidden (part resources)

theorem Relates.bind {part other : Provisioning α} {next otherNext : α → Provisioning β}
    (first : part.Relates environment worlds other)
    (rest : ∀ value, (next value).Relates environment worlds (otherNext value)) :
    (part >>= next).Relates environment worlds (other >>= otherNext) := by
  intro resources
  refine (first resources).bind fun outcome => ?_
  rcases outcome with ⟨failure | value, after⟩
  · exact fun _ _ related => ⟨rfl, related⟩
  · exact rest value after

end Provisioning

/-- Attempts are related if their transfers are, for they release the same resources. -/
theorem relates_withResources (hidden : World.Hidden environment worlds)
    {part other : Provisioning Unit} (relates : part.Relates environment worlds other) :
    (withResources part).Relates environment worlds (withResources other) :=
  (relates .empty).bind fun _ => Plan.Relates.refl hidden _

end VolumeMigration
