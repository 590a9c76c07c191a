import Mathlib.Data.List.Forall2
import VolumeMigration.Proofs.Plan.Relating
import VolumeMigration.Proofs.Plan.Spending

/-!
# Secrets that nothing depends on

Two runs are compared that differ in the contents of some secrets. A cluster is blind
(`Environment.Blind`) if it answers the same whatever secrets contain. Worlds are twins
(`World.Twin`) if the same happened in both, except that secrets were created with other contents.
Blind clusters cannot tell twins apart, and neither can the plans that ask them.
-/

namespace VolumeMigration

/-- Two secrets differ at most in what their entries contain. -/
structure Secret.SameButContents (secret other : Secret) : Prop where
  metadata : secret.metadata = other.metadata
  entries : secret.stringData.map (·.map Prod.fst) = other.stringData.map (·.map Prod.fst)

/-- The reply to the creation of an object, and whether it came with a cancellation. -/
def Response.toCreation {object : ClusterObject} (response : Response (.create object)) :
    Except Failure ResourceRef × Bool :=
  (response.result, response.cancels)

/-- The clusters do not let secrets show: from states that are alike, which may hold secrets with
different contents, every call is answered in the same way, and so is the creation of secrets that
differ in their contents. -/
structure Environment.Blind {σ : Type} (environment : Environment σ) (alike : σ → σ → Prop) :
    Prop where
  refl : ∀ state, alike state state
  call : ∀ (cluster : ClusterHandle) (call : Call) (time : Duration) {left right : σ},
    alike left right →
      (environment.respond cluster call time left).1 =
          (environment.respond cluster call time right).1 ∧
        alike (environment.respond cluster call time left).2
          (environment.respond cluster call time right).2
  secret : ∀ (cluster : ClusterHandle) (time : Duration) {secret other : Secret} {left right : σ},
    secret.SameButContents other → alike left right →
      (environment.respond cluster (.create (.secret secret)) time left).1.toCreation =
          (environment.respond cluster (.create (.secret other)) time right).1.toCreation ∧
        alike (environment.respond cluster (.create (.secret secret)) time left).2
          (environment.respond cluster (.create (.secret other)) time right).2

/-- The secrets that may be created with different contents, each in its cluster. -/
abbrev Differing := ClusterHandle → Secret → Secret → Prop

/-- The same happened, except that one secret may have been created for another. -/
inductive Occurrence.SameBut (differing : Differing) : Occurrence → Occurrence → Prop where
  | same (occurrence : Occurrence) : SameBut differing occurrence occurrence
  | secret {cluster : ClusterHandle} {secret other : Secret}
      (differs : differing cluster secret other) (result : Except Failure ResourceRef) :
      SameBut differing (.exchange cluster (.create (.secret secret)) result)
        (.exchange cluster (.create (.secret other)) result)

/-- Worlds in which the same happened, except for the contents of some secrets. -/
structure World.Twin {σ : Type} (alike : σ → σ → Prop) (differing : Differing)
    (left right : World σ) : Prop where
  clusters : alike left.clusters right.clusters
  clock : left.clock = right.clock
  cancelled : left.cancelled = right.cancelled
  leftovers : left.leftovers = right.leftovers
  history : List.Forall₂ (Occurrence.SameBut differing) left.history.toList right.history.toList

section Twins

variable {σ : Type} {alike : σ → σ → Prop} {differing : Differing} {environment : Environment σ}

namespace World

variable {left right : World σ}

theorem Twin.refl (blind : environment.Blind alike) (world : World σ) :
    world.Twin alike differing world :=
  ⟨blind.refl _, rfl, rfl, rfl, List.forall₂_same.mpr fun _ _ => .same _⟩

/-- Twins stay twins when the same occurs in both, or what may differ. -/
theorem Twin.record (twin : left.Twin alike differing right) {occurrence other : Occurrence}
    (same : Occurrence.SameBut differing occurrence other) :
    (left.record occurrence).Twin alike differing (right.record other) := by
  refine ⟨twin.clusters, twin.clock, twin.cancelled, twin.leftovers, ?_⟩
  simp only [World.record, Array.toList_push]
  exact List.rel_append twin.history (.cons same .nil)

theorem Twin.concordant : Concordant (Twin alike differing : World σ → World σ → Prop) where
  clock := Twin.clock
  cancelled := Twin.cancelled
  leftovers := Twin.leftovers
  wait twin _ := ⟨twin.clusters, rfl, twin.cancelled, twin.leftovers, twin.history⟩
  interrupt twin _ := ⟨twin.clusters, twin.clock, rfl, twin.leftovers, twin.history⟩
  note twin _ := ⟨twin.clusters, twin.clock, twin.cancelled, rfl, twin.history⟩
  record twin occurrence := twin.record (.same occurrence)

/-- What is recorded of two answers that came with a cancellation or both without. -/
theorem Twin.answer (twin : left.Twin alike differing right) {clusters others : σ}
    (moved : alike clusters others) {occurrence other : Occurrence}
    (same : Occurrence.SameBut differing occurrence other) (cancels : Bool) :
    (if cancels then (World.record { left with clusters } occurrence).cancel
      else World.record { left with clusters } occurrence).Twin alike differing
        (if cancels then (World.record { right with clusters := others } other).cancel
          else World.record { right with clusters := others } other) := by
  have changed : World.Twin alike differing { left with clusters }
      { right with clusters := others } :=
    ⟨moved, twin.clock, twin.cancelled, twin.leftovers, twin.history⟩
  have answered := changed.record same
  split
  · exact Twin.concordant.cancel answered
  · exact answered

theorem ask_eq {world : World σ} {cluster : ClusterHandle} {call : Call}
    {response : Response call} {clusters : σ}
    (replied : environment.respond cluster call world.clock world.clusters =
      (response, clusters)) :
    world.ask environment cluster call = (response.result,
      if response.cancels then
        (World.record { world with clusters } (.exchange cluster call response.result)).cancel
      else World.record { world with clusters } (.exchange cluster call response.result)) := by
  simp [World.ask, replied]

/-- Twins get the same answer to a call. -/
theorem Twin.ask (blind : environment.Blind alike) (twin : left.Twin alike differing right)
    (cluster : ClusterHandle) (call : Call) :
    (left.ask environment cluster call).1 = (right.ask environment cluster call).1 ∧
      (left.ask environment cluster call).2.Twin alike differing
        (right.ask environment cluster call).2 := by
  have answered := blind.call cluster call left.clock twin.clusters
  rcases replied : environment.respond cluster call left.clock left.clusters with
    ⟨response, clusters⟩
  rcases otherReplied : environment.respond cluster call left.clock right.clusters with
    ⟨otherResponse, others⟩
  rw [replied, otherReplied] at answered
  rcases answered with ⟨same, moved⟩
  cases same
  rw [twin.clock] at otherReplied
  rw [ask_eq replied, ask_eq otherReplied]
  exact ⟨rfl, twin.answer moved (.same _) response.cancels⟩

/-- Twins get the same answer to secrets that differ in their contents alone. -/
theorem Twin.askSecret (blind : environment.Blind alike) (twin : left.Twin alike differing right)
    {cluster : ClusterHandle} {secret other : Secret} (differs : differing cluster secret other)
    (contents : secret.SameButContents other) :
    ((left.ask environment cluster (.create (.secret secret))).1 : Except Failure ResourceRef) =
        (right.ask environment cluster (.create (.secret other))).1 ∧
      (left.ask environment cluster (.create (.secret secret))).2.Twin alike differing
        (right.ask environment cluster (.create (.secret other))).2 := by
  have answered := blind.secret cluster left.clock contents twin.clusters
  rcases replied : environment.respond cluster (.create (.secret secret)) left.clock left.clusters
    with ⟨⟨result, cancels⟩, clusters⟩
  rcases otherReplied :
    environment.respond cluster (.create (.secret other)) left.clock right.clusters with
    ⟨⟨otherResult, otherCancels⟩, others⟩
  rw [replied, otherReplied] at answered
  rcases answered with ⟨same, moved⟩
  cases same
  rw [twin.clock] at otherReplied
  rw [ask_eq replied, ask_eq otherReplied]
  exact ⟨rfl, twin.answer moved (.secret differs result) cancels⟩

/-- To blind clusters a difference in the contents of a secret is hidden. -/
theorem Twin.hidden (blind : environment.Blind alike) :
    Hidden environment (Twin alike differing) where
  toConcordant := Twin.concordant
  ask twin cluster call := twin.ask blind cluster call

end World

/-! ## The creation of a secret -/

variable {cluster : ClusterHandle} {secret other : Secret}

theorem Plan.relates_askSecret (blind : environment.Blind alike)
    (differs : differing cluster secret other) (contents : secret.SameButContents other) :
    Relates environment (World.Twin alike differing)
      (ask cluster (.create (.secret secret)) : Plan ResourceRef)
      (ask cluster (.create (.secret other))) := by
  intro left right twin
  have asked := run_ask environment left cluster (.create (.secret secret))
  have otherAsked := run_ask environment right cluster (.create (.secret other))
  have answered := twin.askSecret blind differs contents
  rw [← asked, ← otherAsked] at answered
  exact answered

/-- Secrets that differ in their contents are created alike, and refused in the same words. -/
theorem Provisioning.relates_createSecret (blind : environment.Blind alike)
    (differs : differing cluster secret other) (contents : secret.SameButContents other) :
    (create cluster (.secret secret)).Relates environment (World.Twin alike differing)
      (create cluster (.secret other)) := by
  have hidden : World.Hidden environment (World.Twin alike differing) := World.Twin.hidden blind
  intro resources
  have created : (creation cluster (.secret secret)).Relates environment
      (World.Twin alike differing) (creation cluster (.secret other)) := by
    refine (Plan.Relates.refl hidden Plan.checkToken).bind fun _ =>
      (Plan.relates_askSecret blind differs contents).attempt.bind fun answer => ?_
    cases answer with
    | ok resource => exact Plan.Relates.refl hidden _
    | error failure =>
        dsimp only [ClusterObject.kind, ClusterObject.metadata]
        rw [contents.metadata]
        exact Plan.Relates.refl hidden _
  exact created.attempt.bind fun outcome => Plan.Relates.refl hidden _

end Twins

end VolumeMigration
