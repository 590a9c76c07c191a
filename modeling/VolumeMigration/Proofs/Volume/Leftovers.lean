import VolumeMigration.Transfer.Manifest
import VolumeMigration.Volume.Probe

/-!
# Pods that earlier attempts left behind

A pod that an attempt could not delete stays in its cluster and refers to the claims that later
attempts look at. The labels that it was built with keep it from counting as a user, whatever has
become of it since (`Pod.Leftover.not_isLive`). Every other pod that refers to a claim and has not
ended keeps that claim in use.
-/

namespace VolumeMigration

namespace Pod

/-- A pod with the node and the status that its cluster gave it. -/
def placed (pod : Pod) (node : Option String) (status : Option PodStatus) : Pod :=
  { pod with spec := pod.spec.map ({ · with nodeName := node }), status }

/-- A pod that was built for a transfer, as its cluster shows it afterwards. -/
inductive Leftover : Pod → Prop where
  | mountBoth (built : MountBothPod) (node : Option String) (status : Option PodStatus) :
      Leftover (built.toPod.placed node status)
  | sshd (built : SshdPod) (node : Option String) (status : Option PodStatus) :
      Leftover (built.toPod.placed node status)
  | rsync (built : RsyncPod) (node : Option String) (status : Option PodStatus) :
      Leftover (built.toPod.placed node status)

/-- A list of pods is another one with leftovers inserted anywhere. -/
inductive WithLeftovers : List Pod → List Pod → Prop where
  | nil : WithLeftovers [] []
  | keep (pod : Pod) {pods mixed : List Pod} (rest : WithLeftovers pods mixed) :
      WithLeftovers (pod :: pods) (pod :: mixed)
  | insert {pod : Pod} {pods mixed : List Pod} (leftover : pod.Leftover)
      (rest : WithLeftovers pods mixed) : WithLeftovers pods (pod :: mixed)

/-- A pod keeps a claim in use: it has a volume of the claim, has not ended, and is not marked as
created by a migration. -/
structure Uses (pod : Pod) (claim : String) : Prop where
  refers : ∃ spec ∈ pod.spec, ∃ volumes ∈ spec.volumes, ∃ volume ∈ volumes,
    ∃ source ∈ volume.persistentVolumeClaim, source.claimName = claim
  unended : ∀ status ∈ pod.status,
    status.phase ≠ some "Succeeded" ∧ status.phase ≠ some "Failed"
  unmarked : ∀ labels ∈ pod.metadata.labels,
    labels.lookup "app.kubernetes.io/managed-by" ≠ some "pv-migrate"

theorem refersTo_iff (pod : Pod) (claim : String) :
    pod.refersTo claim = true ↔ ∃ spec ∈ pod.spec, ∃ volumes ∈ spec.volumes,
      ∃ volume ∈ volumes, ∃ source ∈ volume.persistentVolumeClaim, source.claimName = claim := by
  cases given : pod.spec with
  | none => simp [refersTo, volumes, given]
  | some spec =>
      cases listed : spec.volumes <;>
        simp [refersTo, volumes, given, listed, Option.any_eq_true]

theorem isManaged_iff (pod : Pod) :
    pod.isManaged = false ↔ ∀ labels ∈ pod.metadata.labels,
      labels.lookup "app.kubernetes.io/managed-by" ≠ some "pv-migrate" := by
  cases given : pod.metadata.labels <;>
    simp [isManaged, labels, given, managedByLabel, managerName]

end Pod

/-- Only two phases are final. -/
theorem PodPhase.isTerminal_parse (text : Option String) :
    (parse text).isTerminal = false ↔ text ≠ some "Succeeded" ∧ text ≠ some "Failed" := by
  unfold parse
  split <;> simp_all [isTerminal]

namespace Pod

theorem isTerminal_phase_iff (pod : Pod) :
    pod.phase.isTerminal = false ↔ ∀ status ∈ pod.status,
      status.phase ≠ some "Succeeded" ∧ status.phase ≠ some "Failed" := by
  rw [phase, PodPhase.isTerminal_parse]
  cases pod.status <;> simp

/-- A pod uses a claim if it mounts it and is a live user. -/
theorem uses_iff (pod : Pod) (claim : String) :
    pod.Uses claim ↔ pod.refersTo claim = true ∧ pod.toUser.isLive = true := by
  have live_iff : pod.toUser.isLive = true ↔
      pod.isManaged = false ∧ pod.phase.isTerminal = false := by
    simp [ClaimUser.isLive, toUser]
  rw [live_iff, refersTo_iff, isManaged_iff, isTerminal_phase_iff]
  constructor
  · intro uses
    exact ⟨uses.refers, uses.unmarked, uses.unended⟩
  · rintro ⟨refers, unmarked, unended⟩
    exact ⟨refers, unended, unmarked⟩

theorem Leftover.isManaged {pod : Pod} (leftover : pod.Leftover) : pod.isManaged = true := by
  cases leftover <;> rfl

/-- A pod that is left over is no live user. -/
theorem Leftover.not_isLive {pod : Pod} (leftover : pod.Leftover) :
    pod.toUser.isLive = false := by
  simp [ClaimUser.isLive, toUser, leftover.isManaged]

theorem find?_usersOf_cons (pod : Pod) (pods : List Pod) (claim : String) :
    (usersOf (pod :: pods) claim).find? ClaimUser.isLive =
      if pod.refersTo claim && pod.toUser.isLive then some pod.toUser
      else (usersOf pods claim).find? ClaimUser.isLive := by
  cases refers : pod.refersTo claim <;> cases live : pod.toUser.isLive <;>
    simp [usersOf, refers, live]

/-- Pods that are left over do not change who the first live user is. -/
theorem WithLeftovers.find?_usersOf {pods mixed : List Pod} (among : WithLeftovers pods mixed)
    (claim : String) :
    (usersOf mixed claim).find? ClaimUser.isLive =
      (usersOf pods claim).find? ClaimUser.isLive := by
  induction among with
  | nil => rfl
  | keep pod rest ih => rw [find?_usersOf_cons, find?_usersOf_cons, ih]
  | insert leftover rest ih => simp [find?_usersOf_cons, leftover.not_isLive, ih]

end Pod

/-- A volume counts as mounted if it has a live user. -/
theorem MountStatus.mounted_ofUsers (users : List ClaimUser) :
    (ofUsers users).mounted = true ↔ ∃ user ∈ users, user.isLive = true := by
  rw [ofUsers]
  cases found : users.find? ClaimUser.isLive with
  | none =>
      rw [List.find?_eq_none] at found
      simpa [free] using found
  | some user =>
      simp only [true_iff]
      exact ⟨user, List.mem_of_find?_eq_some found, List.find?_some found⟩

/-- Whatever leftovers are among the pods of a cluster, and whatever has become of them, a claim
shows the same status as without them, and it is in use exactly if some pod uses it. -/
theorem MountStatus.ofUsers_withLeftovers {pods mixed : List Pod}
    (among : Pod.WithLeftovers pods mixed) (claim : String) :
    ofUsers (Pod.usersOf mixed claim) = ofUsers (Pod.usersOf pods claim) ∧
      ((ofUsers (Pod.usersOf pods claim)).mounted = true ↔ ∃ pod ∈ pods, pod.Uses claim) := by
  constructor
  · rw [ofUsers, among.find?_usersOf, ← ofUsers]
  · rw [mounted_ofUsers]
    simp only [Pod.usersOf, List.mem_map, List.mem_filter, Pod.uses_iff]
    constructor
    · rintro ⟨_, ⟨pod, ⟨pod_mem, refers⟩, rfl⟩, live⟩
      exact ⟨pod, pod_mem, refers, live⟩
    · rintro ⟨pod, pod_mem, refers, live⟩
      exact ⟨pod.toUser, ⟨pod, ⟨pod_mem, refers⟩, rfl⟩, live⟩

/-- A running pod with a volume of the claim `data`. -/
def Pod.database : Pod :=
  { metadata := { name := some "database", ns := some "default", labels := none }
    spec := some {
      containers := []
      volumes := some [Manifest.claimVolume "storage" "data" false]
      restartPolicy := none
      affinity := none
      nodeName := some "node-1" }
    status := some { phase := some "Running", reason := none, containerStatuses := none } }

/-- A relay that served the claim `data`. -/
def SshdPod.abandoned : SshdPod :=
  { name := "relay"
    ns := "default"
    attemptId := "1"
    image := defaultSshdImage
    destinationClaim := "data"
    keysSecret := "keys"
    node := none }

/-- A relay that was left behind neither hides the use by a database nor feigns one. -/
theorem MountStatus.ofUsers_withLeftovers_abandoned :
    let relay := SshdPod.abandoned.toPod.placed (some "node-2")
      (some { phase := some "Running", reason := none, containerStatuses := none })
    Pod.WithLeftovers [Pod.database] [relay, Pod.database] ∧
      ofUsers (Pod.usersOf [relay, Pod.database] "data") =
        ofUsers (Pod.usersOf [Pod.database] "data") ∧
      ((ofUsers (Pod.usersOf [Pod.database] "data")).mounted = true ↔
        ∃ pod ∈ [Pod.database], pod.Uses "data") := by
  intro relay
  have among : Pod.WithLeftovers [Pod.database] [relay, Pod.database] :=
    .insert (.sshd _ _ _) (.keep _ .nil)
  exact ⟨among, ofUsers_withLeftovers among "data"⟩

end VolumeMigration
