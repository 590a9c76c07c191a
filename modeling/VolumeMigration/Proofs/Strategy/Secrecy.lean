import VolumeMigration.Proofs.Plan.Secrecy
import VolumeMigration.Proofs.Strategy.RelayFirst

/-!
# The way of the private key

A transfer through a relay puts the private key into one secret beside the source. Executions that
differ only in that key are twins, whose secrets differ in nothing but the entry of the key
(`Tunnel.KeyDiffers`).
-/

namespace VolumeMigration

/-- The same attempt, for which another private key was drawn to the same accepted key. -/
def AttemptContext.withPrivateKey (context : AttemptContext) (privateKey : String) :
    AttemptContext :=
  { context with draw := { context.draw with keyPair := { context.draw.keyPair with privateKey } } }

namespace Tunnel

/-- A secret in the cluster and the namespace of the source that holds the private key, and one
that differs from it in the entry of that key only. -/
structure KeyDiffers (context : AttemptContext) (privateKey : String) (cluster : ClusterHandle)
    (secret other : Secret) : Prop where
  source : context.sourceCluster = .ok cluster
  ns : secret.metadata.ns = some context.request.source.ns
  entries : secret.stringData = some [(Layout.privateKeyFile, context.draw.keyPair.privateKey)]
  secret_eq : secret = keySecret context
  other_eq : other = { secret with stringData := some [(Layout.privateKeyFile, privateKey)] }

theorem KeyDiffers.sameButContents {context : AttemptContext} {privateKey : String}
    {cluster : ClusterHandle} {secret other : Secret}
    (differs : KeyDiffers context privateKey cluster secret other) :
    secret.SameButContents other := by
  rw [differs.other_eq]
  refine ⟨rfl, ?_⟩
  rw [differs.entries]
  rfl

/-- The secret of the private key is the one object that may differ. -/
theorem keyDiffers_keySecret {context : AttemptContext} {cluster : ClusterHandle}
    (source : context.sourceCluster = .ok cluster) (privateKey : String) :
    KeyDiffers context privateKey cluster (keySecret context)
      (keySecret (context.withPrivateKey privateKey)) :=
  ⟨source, rfl, rfl, rfl, rfl⟩

section Twins

variable {σ : Type} {alike : σ → σ → Prop} {environment : Environment σ}

open Provisioning

/-- Of the two secrets that a copy needs, only the one with the private key differs. -/
theorem relates_copyTo (blind : environment.Blind alike) {context : AttemptContext}
    {cluster : ClusterHandle} (source : context.sourceCluster = .ok cluster) (privateKey : String)
    (node : Option String) (host : String) :
    (copyTo context cluster node host).Relates environment
      (World.Twin alike (KeyDiffers context privateKey))
      (copyTo (context.withPrivateKey privateKey) cluster node host) := by
  have differs := keyDiffers_keySecret source privateKey
  exact (relates_createSecret blind differs differs.sameButContents).bind fun _ =>
    Relates.refl (World.Twin.hidden blind)
      (create cluster (.pod (copyPod context node host).toPod) >>= fun created =>
        lift (waitPodCompleted context.pacing cluster created))

/-- Transfers with different private keys lead to twins. -/
theorem relates_transfer (blind : environment.Blind alike) (exposure : Exposure)
    (context : AttemptContext) (privateKey : String) :
    (transfer exposure context).Relates environment
      (World.Twin alike (KeyDiffers context privateKey))
      (transfer exposure (context.withPrivateKey privateKey)) := by
  have hidden : World.Hidden environment (World.Twin alike (KeyDiffers context privateKey)) :=
    World.Twin.hidden blind
  -- all but the copy reads the context without its private key, and is the same for both
  cases source : context.sourceCluster with
  | error failure =>
      have stops : ∀ other : AttemptContext, other.sourceCluster = .error failure →
          transfer exposure other = fun resources => .done (.error failure, resources) := by
        intro other same
        unfold transfer
        rw [same]
        rfl
      rw [stops context source, stops (context.withPrivateKey privateKey) source]
      exact Relates.refl hidden _
  | ok cluster =>
      have follows : ∀ other : AttemptContext, other.sourceCluster = .ok cluster →
          transfer exposure other = (ofExcept other.destinationCluster >>= fun destination =>
            lift (probeNodes other) >>= fun nodes =>
              openRelay other exposure destination nodes.2 >>= fun host =>
                copyTo other cluster nodes.1 host) := by
        intro other same
        unfold transfer
        rw [same]
        rfl
      rw [follows context source, follows (context.withPrivateKey privateKey) source]
      exact (Relates.refl hidden (ofExcept context.destinationCluster)).bind fun destination =>
        (Relates.refl hidden (lift (probeNodes context))).bind fun nodes =>
          (Relates.refl hidden (openRelay context exposure destination nodes.2)).bind fun host =>
            relates_copyTo blind source privateKey nodes.1 host

/-- Executions with different private keys lead to twins. -/
theorem relates_execute (blind : environment.Blind alike) (exposure : Exposure)
    (context : AttemptContext) (privateKey : String) :
    ((strategy exposure).execute context).Relates environment
      (World.Twin alike (KeyDiffers context privateKey))
      ((strategy exposure).execute (context.withPrivateKey privateKey)) := by
  rw [execute_eq, execute_eq]
  exact relates_withResources (World.Twin.hidden blind)
    (relates_transfer blind exposure context privateKey)

end Twins

/-! ## One secret -/

/-- No object is planned twice. -/
theorem nodup_planned (context : AttemptContext) (exposure : Exposure) (route : Route) :
    (planned context exposure route).Nodup := by
  refine List.nodup_append.mpr ⟨?_, ?_, ?_⟩
  · simp [relaySide]
  · simp [copySide]
  · intro relay relay_mem copy copy_mem same
    rcases List.mem_map.mp relay_mem with ⟨object, object_mem, rfl⟩
    rcases List.mem_map.mp copy_mem with ⟨other, other_mem, rfl⟩
    have object_eq : object = other := congrArg Prod.snd same
    subst object_eq
    exact not_mem_copySide object_mem other_mem

/-- An execution asks for no object twice. -/
theorem nodup_requests {σ : Type} (exposure : Exposure) (context : AttemptContext)
    (environment : Environment σ) (world : World σ) :
    (requests (callsOf exposure context environment world)).Nodup := by
  rcases run_relayFirst exposure context environment world with probes | ⟨route, relayFirst⟩
  · have nothing : requests (callsOf exposure context environment world) = [] :=
      (finished_of_probes probes).requests
    rw [nothing]
    exact List.nodup_nil
  · exact (nodup_planned context exposure route).sublist relayFirst.begun.requests.sublist

end Tunnel

end VolumeMigration
