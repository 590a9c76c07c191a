import VolumeMigration.Proofs.Strategy.RelayFirst

/-!
# The pods of an attempt

An execution of a strategy of this library asks for few pods. `Transfers.podOf_course` says which
ones, and in which clusters; by `AttemptContext.AsksFor.attemptPod` each of them plays one of the
parts that a pod can have in its attempt.
-/

namespace VolumeMigration

/-- The pods that an attempt can create, with the parts that they play. -/
inductive AttemptPod (context : AttemptContext) : Component → Pod → Prop where
  | mountBoth (node : Option String) :
      AttemptPod context .mountBoth (MountBoth.pod context node).toPod
  | relay (node : Option String) : AttemptPod context .sshd (Tunnel.relayPod context node).toPod
  | copier (node : Option String) (host : String) :
      AttemptPod context .rsync (Tunnel.copyPod context node host).toPod

/-- The pods that a strategy of this library creates, with their clusters. -/
inductive PodOf (context : AttemptContext) : Strategy → ClusterHandle → Pod → Prop where
  | mountBoth {cluster : ClusterHandle} (found : context.sourceCluster = .ok cluster)
      (node : Option String) : PodOf context mountBoth cluster (MountBoth.pod context node).toPod
  | relay (exposure : Exposure) {cluster : ClusterHandle}
      (found : context.destinationCluster = .ok cluster) (node : Option String) :
      PodOf context (Tunnel.strategy exposure) cluster (Tunnel.relayPod context node).toPod
  | copier (exposure : Exposure) {cluster : ClusterHandle}
      (found : context.sourceCluster = .ok cluster) (node : Option String) (host : String) :
      PodOf context (Tunnel.strategy exposure) cluster (Tunnel.copyPod context node host).toPod

section Pods

variable {context : AttemptContext} {resources : Provisioned} {cancelled : Bool}
  {trace : List Occurrence} {leftovers : List String}
  {ended : Except Failure (Except Failure Unit × Provisioned)} {cluster : ClusterHandle}
  {pod : Pod} {result : Except Failure ResourceRef}

theorem not_created_of_probes {made : List Exchange}
    (probes : ∀ exchange ∈ made, exchange.call.isProbe = true) :
    ⟨cluster, .create (.pod pod), result⟩ ∉ made := by
  intro created
  cases probes _ created

/-- A transfer in one pod asks for that pod beside the source. -/
theorem MountBoth.podOf_course
    (course : (transfer context resources).Course cancelled trace leftovers ended)
    (created : ⟨cluster, .create (.pod pod), result⟩ ∈ exchanges trace) :
    PodOf context mountBoth cluster pod := by
  rcases Provisioning.course_ofExcept_bind course with ⟨_, -, rfl, -⟩ | ⟨source, found, probing⟩
  · cases created
  rcases Provisioning.course_probe_bind (within_chooseNode context) probing with ⟨_, -, probes⟩ |
    ⟨node, first, second, _, _, rfl, -, probes, copied⟩
  · exact absurd created (not_created_of_probes probes)
  rw [exchanges_append, List.mem_append] at created
  have copying := created.resolve_left (not_created_of_probes probes)
  have begun := (builds_copy context source node).begins copied
  cases List.mem_singleton.mp (begun.requests.subset (request_mem copying))
  exact .mountBoth found node

/-- A transfer through a relay asks for the relay and for the pod that copies. -/
theorem Tunnel.podOf_course {exposure : Exposure}
    (course : (transfer exposure context resources).Course cancelled trace leftovers ended)
    (created : ⟨cluster, .create (.pod pod), result⟩ ∈ exchanges trace) :
    PodOf context (strategy exposure) cluster pod := by
  rcases course_transfer_probed course with ⟨_, -, probes⟩ |
    ⟨source, destination, sourceNode, destinationNode, first, second, _, _, found, reached, rfl, -,
      probes, opening⟩
  · exact absurd created (not_created_of_probes probes)
  rw [exchanges_append, List.mem_append] at created
  have opened := created.resolve_left (not_created_of_probes probes)
  rcases course_opens opening with ⟨host, opens, -⟩
  have requested := opens.begun.requests.subset (request_mem opened)
  rcases pod_mem_planned requested with ⟨rfl, rfl⟩ | ⟨rfl, rfl⟩
  · exact .relay exposure reached destinationNode
  · exact .copier exposure found sourceNode host

/-- An execution asks for the pods of its strategy, in the clusters where they belong. -/
theorem Transfers.podOf_course {strategy : Strategy}
    {transfer : AttemptContext → Provisioning Unit} (transfers : Transfers strategy transfer)
    {outcome : Except Failure Unit}
    (course : (strategy.execute context).Course cancelled trace leftovers outcome)
    (created : ⟨cluster, .create (.pod pod), result⟩ ∈ exchanges trace) :
    PodOf context strategy cluster pod := by
  rw [transfers.execute_eq] at course
  rcases course_withResources (transfers.accountable context) course with
    ⟨work, teardown, _, _, _, rfl, worked, deleted, -⟩
  have working : ⟨cluster, .create (.pod pod), result⟩ ∈ exchanges work := by
    rw [exchanges_append, List.mem_append] at created
    apply created.resolve_right
    intro tearing
    cases isDelete_of_deletions deleted _ tearing
  cases transfers with
  | mountBoth => exact MountBoth.podOf_course worked working
  | inCluster =>
      have podOf : PodOf context (Tunnel.strategy .clusterIp) cluster pod :=
        Tunnel.podOf_course worked working
      exact podOf
  | crossCluster =>
      have podOf : PodOf context (Tunnel.strategy .loadBalancer) cluster pod :=
        Tunnel.podOf_course worked working
      exact podOf

end Pods

/-! ## Parts -/

/-- The pod of a strategy plays a part in its attempt. -/
theorem PodOf.attemptPod {context : AttemptContext} {strategy : Strategy}
    {cluster : ClusterHandle} {pod : Pod} (created : PodOf context strategy cluster pod) :
    ∃ component, AttemptPod context component pod := by
  cases created with
  | mountBoth _ node => exact ⟨_, .mountBoth node⟩
  | relay _ _ node => exact ⟨_, .relay node⟩
  | copier _ _ node host => exact ⟨_, .copier node host⟩

/-- An execution of a strategy of this library asks some cluster for a pod in an attempt. -/
def AttemptContext.AsksFor (context : AttemptContext) (pod : Pod) : Prop :=
  ∃ strategy ∈ StrategyRegistry.builtin.strategies, ∃ (σ : Type) (environment : Environment σ)
    (world : World σ) (cluster : ClusterHandle), (cluster, .pod pod) ∈
      requests (exchanges (world.since ((strategy.execute context).run environment world).2))

/-- Every pod that an attempt asks for plays a part in it. -/
theorem AttemptContext.AsksFor.attemptPod {context : AttemptContext} {pod : Pod}
    (asks : context.AsksFor pod) : ∃ component, AttemptPod context component pod := by
  rcases asks with ⟨strategy, builtin, σ, environment, world, cluster, requested⟩
  rcases Transfers.of_builtin builtin with ⟨transfer, transfers⟩
  rcases Plan.run_course environment (strategy.execute context) world with
    ⟨trace, leftovers, course, follows, -⟩
  rw [follows.since] at requested
  rcases exists_of_request requested with ⟨result, created⟩
  exact (transfers.podOf_course course created).attemptPod

end VolumeMigration
