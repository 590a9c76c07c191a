import VolumeMigration.CommandLine.Program
import VolumeMigration.Proofs.Plan.Truthfulness

/-!
# Reading the state of a pod

`Dialogue.FailsAs` says which failures a dialogue with an API server can end with, whatever it is
answered. A dialogue about the state of a pod fails as a cluster does and in no other way, so
clusters that are asked through their API servers keep to what a wait excuses
(`transientReads_clientEnvironment`).
-/

namespace VolumeMigration

variable {σ α β : Type}

namespace Dialogue

/-- Whatever the server answers, a dialogue fails only with a failure that has a property. -/
def FailsAs (property : Failure → Prop) : Dialogue α → Prop
  | .done _ => True
  | .fail failure => property failure
  | .send _ next => ∀ response, (next response).FailsAs property

variable {property more : Failure → Prop}

/-- A dialogue fails as its parts do. -/
theorem FailsAs.bind {dialogue : Dialogue α} {next : α → Dialogue β}
    (fails : dialogue.FailsAs property) (rest : ∀ value, (next value).FailsAs property) :
    (dialogue.bind next).FailsAs property := by
  induction dialogue with
  | done value => exact rest value
  | fail failure => exact fails
  | send request next ih => exact fun response => ih response (fails response)

/-- A dialogue that goes on from the outcome of another, whichever it is. -/
theorem FailsAs.attempt_bind {dialogue : Dialogue α} {next : Except Failure α → Dialogue β}
    (fails : dialogue.FailsAs property) (succeeded : ∀ value, (next (.ok value)).FailsAs more)
    (failed : ∀ failure, property failure → (next (.error failure)).FailsAs more) :
    (dialogue.attempt.bind next).FailsAs more := by
  induction dialogue with
  | done value => exact succeeded value
  | fail failure => exact failed failure fails
  | send request next ih => exact fun response => ih response (fails response)

/-- A run that fails does so as the dialogue can, or by a fault of the transport. -/
theorem FailsAs.run {dialogue : Dialogue α} (fails : dialogue.FailsAs property)
    (faults : ∀ fault, property (.api fault)) {transport : Transport σ} {state after : σ}
    {failure : Failure} (ran : dialogue.run transport state = (.error failure, after)) :
    property failure := by
  induction dialogue generalizing state with
  | done value => cases ran
  | fail failure =>
      cases ran
      exact fails
  | send request next ih =>
      rw [Dialogue.run] at ran
      rcases answered : transport request state with ⟨fault | response, later⟩
      · rw [answered] at ran
        cases ran
        exact faults fault
      · rw [answered] at ran
        exact ih response (fails response) ran

theorem failsAs_ofExcept (faults : ∀ fault, property (.api fault))
    (result : Except ApiFault α) : (ofExcept result).FailsAs property := by
  cases result with
  | ok value => trivial
  | error fault => exact faults fault

/-- A request fails by a fault alone. -/
theorem failsAs_exchange (faults : ∀ fault, property (.api fault)) (decode : Json.Decoder α)
    (method : HttpMethod) (target : String) (body : Option Json) :
    (exchange decode method target body).FailsAs property := by
  unfold exchange
  split
  · exact fun response => failsAs_ofExcept faults (response.read decode)
  · exact faults _

theorem failsAs_fetch? (faults : ∀ fault, property (.api fault)) (decode : Json.Decoder α)
    (collection : Collection) (name : String) :
    (fetch? decode collection name).FailsAs property := by
  have fetched : (fetch decode collection name).FailsAs property := by
    unfold fetch
    split
    · exact faults _
    · exact failsAs_exchange faults decode .get _ none
  apply fetched.attempt_bind
  · exact fun _ => trivial
  · intro failure fails
    split
    next value same => trivial
    next refusal same =>
      split
      · trivial
      · exact faults _
    next other _ same =>
      cases same
      exact fails

end Dialogue

/-- The state of a pod is read from its API server, or this fails as a cluster does. -/
theorem ClusterClient.failsAs_podState (ns name : String) :
    (podState ns name).FailsAs (·.kind = .cluster) :=
  (Dialogue.failsAs_fetch? (fun _ => rfl) Pod.decode (.pods ns) name).bind fun _ => trivial

/-- Looks at a pod fail by faults of the server or of the way to it, and never otherwise. -/
theorem transientReads_clientEnvironment (transport : ClusterHandle → Transport σ)
    (cluster : ClusterHandle) (pod : ResourceRef) :
    (clientEnvironment transport).TransientReads cluster pod := by
  intro situation failure answered
  have fails := ClusterClient.failsAs_podState pod.ns pod.name
  rcases ran : (ClusterClient.podState pod.ns pod.name).run (transport cluster)
    situation.clusters with ⟨result, after⟩
  have result_eq : result = .error failure := (congrArg Prod.fst ran).symm.trans answered
  rw [result_eq] at ran
  exact fails.run (fun _ => rfl) ran

end VolumeMigration
