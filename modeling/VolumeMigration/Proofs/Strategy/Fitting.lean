import VolumeMigration.Proofs.Strategy.Pods

/-!
# The objects of a tunnel fit together

The objects of an execution through a relay are made by different functions and find each other by
names, labels, keys, ports and paths alone. `TunnelObjects.Fit` reads these off the objects and says
that they agree: the service leads to the relay and to no other pod, both pods find their halves of
one key pair in the secrets created before them, and the script connects to the relay and copies
between the directories of the claims. `Tunnel.run_fitting` says so of every execution, and that
an execution ends well only after it created all of these objects.
-/

namespace VolumeMigration

/-- The objects that an execution through a relay creates. -/
structure TunnelObjects where
  keys : Secret
  relay : Pod
  service : Service
  key : Secret
  copier : Pod

namespace TunnelObjects

/-- The objects with their clusters, in the order in which they are created. -/
def placed (objects : TunnelObjects) (source destination : ClusterHandle) : List PlacedObject :=
  [(destination, .secret objects.keys), (destination, .pod objects.relay),
    (destination, .service objects.service), (source, .secret objects.key),
    (source, .pod objects.copier)]

/-- The objects of an attempt agree with each other and with a copy that their script starts. -/
structure Fit (objects : TunnelObjects) (context : AttemptContext) (exposure : Exposure)
    (copy : RemoteCopy) (accepted identity : SecretFile) : Prop where
  /-- The service leads to the relay, in its namespace. -/
  leads : objects.service.Matches objects.relay
  together : objects.service.metadata.ns = objects.relay.metadata.ns
  /-- It leads to no pod of another attempt, and to no other pod of this one. -/
  leadsOnly : ∀ {other : AttemptContext} {component : Component} {pod : Pod},
    AttemptPod other component pod → objects.service.Matches pod →
      component = .sshd ∧ other.attemptId = context.attemptId
  /-- No attempt asks for other pods than these. -/
  attemptPods : ∀ {other : AttemptContext} {pod : Pod},
    other.AsksFor pod → ∃ component, AttemptPod other component pod
  targetPorts : objects.service.targetPorts = [some (.number copy.port)]
  containerPorts : objects.relay.containerPorts = [(copy.port : Int)]
  clusterHost : exposure = .clusterIp → ∃ name ns, objects.service.metadata.name = some name ∧
    objects.service.metadata.ns = some ns ∧ copy.host = name ++ "." ++ ns
  relayFiles : objects.relay.secretFiles = [accepted]
  relayWants : objects.relay.wantedKeys = [(accepted.secret, accepted.key)]
  copierFiles : objects.copier.secretFiles = [identity]
  copierWants : objects.copier.wantedKeys = [(identity.secret, identity.key)]
  /-- The secrets hold the halves of the one key pair that was drawn for the attempt. -/
  acceptedKey : objects.keys.Provides objects.relay (accepted.secret, accepted.key)
    (context.draw.keyPair.authorizedKey ++ "\n")
  privateKey : objects.key.Provides objects.copier (identity.secret, identity.key)
    context.draw.keyPair.privateKey
  script : ∃ script, objects.copier.scripts = [script] ∧ copy.StartedBy script
  identityPath : copy.identity = identity.path
  sourcePath : objects.copier.claimPaths = [(context.request.source.name, copy.sourcePath)]
  destinationPath :
    objects.relay.claimPaths = [(context.request.destination.name, copy.destinationPath)]

/-- Among the objects in order, what a pod wants comes before the pod. -/
theorem Fit.provided {objects : TunnelObjects} {context : AttemptContext} {exposure : Exposure}
    {copy : RemoteCopy} {accepted identity : SecretFile}
    (fits : objects.Fit context exposure copy accepted identity)
    {source destination cluster : ClusterHandle} {before after : List PlacedObject} {pod : Pod}
    (parted : objects.placed source destination = before ++ (cluster, .pod pod) :: after) :
    ∀ wanted ∈ pod.wantedKeys,
      ∃ secret text, (cluster, .secret secret) ∈ before ∧ secret.Provides pod wanted text := by
  intro wanted wanted_mem
  -- of the five places only the second and the last hold a pod
  rcases before with _ | ⟨keys, _ | ⟨relay, _ | ⟨service, _ | ⟨key, _ | ⟨copier, rest⟩⟩⟩⟩⟩ <;>
    simp only [placed, List.nil_append, List.cons_append, List.cons.injEq, Prod.mk.injEq,
      ClusterObject.pod.injEq, reduceCtorEq, and_false, false_and] at parted
  · rcases parted with ⟨rfl, ⟨rfl, rfl⟩, -⟩
    rw [fits.relayWants, List.mem_singleton] at wanted_mem
    subst wanted_mem
    exact ⟨objects.keys, _, List.mem_cons_self, fits.acceptedKey⟩
  · rcases parted with ⟨-, -, -, rfl, ⟨rfl, rfl⟩, -⟩
    rw [fits.copierWants, List.mem_singleton] at wanted_mem
    subst wanted_mem
    exact ⟨objects.key, _, by simp, fits.privateKey⟩
  · have impossible := congrArg List.length parted.2.2.2.2.2
    simp at impossible

end TunnelObjects

/-- A pod is asked for only when every key that it wants is in a secret that was created before, in
the same cluster. -/
def SecretsFirst (made : List Exchange) : Prop :=
  ∀ ⦃earlier later : List Exchange⦄ ⦃cluster : ClusterHandle⦄ ⦃pod : Pod⦄
    ⦃result : Except Failure ResourceRef⦄,
    made = earlier ++ ⟨cluster, .create (.pod pod), result⟩ :: later →
      ∀ wanted ∈ pod.wantedKeys,
        ∃ secret text, (cluster, .secret secret) ∈ built earlier ∧
          secret.Provides pod wanted text

/-! ## Labels -/

theorem lookup_labels {attemptId : String} {component : Component} {label : String × String}
    (label_mem : label ∈ Manifest.labels attemptId component) :
    (Manifest.labels attemptId component).lookup label.1 = some label.2 := by
  simp only [Manifest.labels, Manifest.labelsFor, List.mem_cons, List.not_mem_nil, or_false]
    at label_mem
  rcases label_mem with rfl | rfl | rfl <;> rfl

/-- The labels of a pod tell its attempt and its part. -/
theorem AttemptPod.labels_eq {context : AttemptContext} {component : Component} {pod : Pod}
    (created : AttemptPod context component pod) :
    pod.labels = Manifest.labels context.attemptId component := by
  cases created <;> rfl

namespace Tunnel

/-- The service of a relay leads to the relays of its own attempt, and to no other pod. -/
theorem matches_iff {context other : AttemptContext} {exposure : Exposure}
    {component : Component} {pod : Pod} (created : AttemptPod other component pod) :
    (service context exposure).Matches pod ↔
      component = .sshd ∧ other.attemptId = context.attemptId := by
  have selector : (service context exposure).selector = Manifest.labels context.attemptId .sshd :=
    rfl
  rw [Service.Matches, selector, created.labels_eq]
  constructor
  · rintro ⟨-, required⟩
    have part := required (componentLabel, Component.sshd.name) List.mem_cons_self
    have attempt := required (instanceLabel, context.attemptId)
      (List.mem_cons_of_mem _ List.mem_cons_self)
    exact ⟨Component.name_inj.mp (Option.some.inj part), Option.some.inj attempt⟩
  · rintro ⟨rfl, same⟩
    rw [same]
    refine ⟨List.cons_ne_nil _ _, ?_⟩
    intro label label_mem
    exact lookup_labels label_mem

/-- The objects that an execution through a relay creates on a route. -/
def objects (context : AttemptContext) (exposure : Exposure) (route : Route) : TunnelObjects :=
  { keys := keysSecret context
    relay := (relayPod context route.destinationNode).toPod
    service := service context exposure
    key := keySecret context
    copier := (copyPod context route.sourceNode route.host).toPod }

/-- What is made for a route fits together, with a copy to its host. -/
theorem fit (context : AttemptContext) (exposure : Exposure) (route : Route)
    (host : exposure = .clusterIp → route.host = clusterHost context) :
    ∃ accepted identity,
      (objects context exposure route).Fit context exposure (RsyncCommand.remoteCopy route.host)
        accepted identity := by
  refine ⟨⟨context.resourceName "sshd-keys", Layout.authorizedKeysFile,
      Layout.sshDirectory ++ "/" ++ Layout.authorizedKeysFile⟩,
    ⟨context.resourceName "rsync-key", Layout.privateKeyFile,
      Layout.keyDirectory ++ "/" ++ Layout.privateKeyFile⟩, ?_⟩
  exact
    { leads := (matches_iff (.relay route.destinationNode)).mpr ⟨rfl, rfl⟩
      together := rfl
      leadsOnly := fun created => (matches_iff created).mp
      attemptPods := AttemptContext.AsksFor.attemptPod
      targetPorts := rfl
      containerPorts := rfl
      clusterHost := fun inside => ⟨_, _, rfl, rfl, host inside⟩
      relayFiles := rfl
      relayWants := rfl
      copierFiles := rfl
      copierWants := rfl
      acceptedKey := ⟨rfl, rfl, rfl⟩
      privateKey := ⟨rfl, rfl, rfl⟩
      script := ⟨_, rfl, RsyncCommand.startedBy_transferScript _ _ _⟩
      identityPath := rfl
      sourcePath := rfl
      destinationPath := rfl }

/-- Objects that fit together are asked for with the secrets first. -/
theorem secretsFirst {context : AttemptContext} {exposure : Exposure} {route : Route}
    {made : List Exchange} {copy : RemoteCopy} {accepted identity : SecretFile}
    (fits : (objects context exposure route).Fit context exposure copy accepted identity)
    (begun : Begun (planned context exposure route) made) : SecretsFirst made := by
  intro earlier later cluster pod result parted
  rcases begun.built_before parted with ⟨after, planned_eq⟩
  rw [List.append_assoc] at planned_eq
  exact fits.provided planned_eq.symm

/-- The calls of an execution ask for objects that fit together, secrets before the pods that want
them, and an execution that ends well has created all of the objects. -/
structure Fitted (context : AttemptContext) (exposure : Exposure) (outcome : Except Failure Unit)
    (made : List Exchange) (source destination : ClusterHandle) (objects : TunnelObjects)
    (copy : RemoteCopy) (accepted identity : SecretFile) : Prop where
  sourceCluster : context.sourceCluster = .ok source
  destinationCluster : context.destinationCluster = .ok destination
  asked : requests made <+: objects.placed source destination
  fit : objects.Fit context exposure copy accepted identity
  secretsFirst : SecretsFirst made
  finished : outcome = .ok () → built made = objects.placed source destination
  /-- The script connects to the host on which the service that was created can be reached. -/
  host : (source, .pod objects.copier) ∈ requests made → ∃ created,
    ⟨destination, .create (.service objects.service), .ok created⟩ ∈ made ∧
      HostKnown context destination created made exposure copy.host

theorem RelayFirst.fitted {context : AttemptContext} {exposure : Exposure} {route : Route}
    {outcome : Except Failure Unit} {made : List Exchange}
    (relayFirst : RelayFirst context exposure route made)
    (finished : outcome = .ok () → Finished (planned context exposure route) made) :
    ∃ accepted identity, Fitted context exposure outcome made route.source route.destination
      (objects context exposure route) (RsyncCommand.remoteCopy route.host) accepted identity := by
  rcases fit context exposure route relayFirst.clusterHost with ⟨accepted, identity, fits⟩
  exact ⟨accepted, identity,
    { sourceCluster := relayFirst.joins.source
      destinationCluster := relayFirst.joins.destination
      asked := relayFirst.begun.requests
      fit := fits
      secretsFirst := Tunnel.secretsFirst fits relayFirst.begun
      finished := fun well => (finished well).built
      host := relayFirst.hostKnown }⟩

variable {σ : Type}

/-- Every execution through a relay fails and only probes, or it asks for objects that fit
together. -/
theorem run_fitting (exposure : Exposure) (context : AttemptContext)
    (environment : Environment σ) (world : World σ) :
    let outcome := (((strategy exposure).execute context).run environment world).1
    let made := callsOf exposure context environment world
    (outcome ≠ .ok () ∧ ∀ exchange ∈ made, exchange.call.isProbe = true) ∨
      ∃ source destination objects copy accepted identity,
        Fitted context exposure outcome made source destination objects copy accepted identity := by
  intro outcome made
  rcases Plan.run_course environment ((strategy exposure).execute context) world with
    ⟨trace, leftovers, course, follows, -⟩
  have made_eq : made = exchanges trace := by simp only [made, callsOf, follows.since]
  rw [made_eq]
  rcases course_execute course with refused | ⟨route, relayFirst, finished⟩
  · exact .inl refused
  · rcases relayFirst.fitted finished with ⟨accepted, identity, fitted⟩
    exact .inr ⟨_, _, _, _, accepted, identity, fitted⟩

/-- Between two clusters in which every call succeeds, objects that fit together are created and
the copy that is started is read back from the script. -/
theorem run_fitting_distant :
    let outcome :=
      (((strategy .clusterIp).execute Quiet.distantContext).run Quiet.serving (World.start ())).1
    let made := callsOf .clusterIp Quiet.distantContext Quiet.serving (World.start ())
    outcome = .ok () ∧ ∃ objects copy accepted identity script,
      Fitted Quiet.distantContext .clusterIp outcome made ⟨0⟩ ⟨1⟩ objects copy accepted identity ∧
        built made = objects.placed ⟨0⟩ ⟨1⟩ ∧ objects.copier.scripts = [script] ∧
        RemoteCopy.ofScript? script = some copy := by
  intro outcome made
  have well : outcome = .ok () := by decide +kernel
  have asks : (requests made).length = 5 := by decide +kernel
  have host_eq : clusterHost Quiet.distantContext = "pv-migrate-0-sshd.default" := rfl
  have all_plain : "pv-migrate-0-sshd.default".toList.all (fun char =>
      char != ':' && !Shell.metacharacters.contains char) = true := by decide +kernel
  have plain : ∀ char ∈ "pv-migrate-0-sshd.default".toList,
      char ≠ ':' ∧ char ∉ Shell.metacharacters := by simpa [List.all_eq_true] using all_plain
  rcases run_fitting .clusterIp Quiet.distantContext Quiet.serving (World.start ()) with
    ⟨failed, -⟩ | ⟨source, destination, objects, copy, accepted, identity, fitted⟩
  · exact absurd well failed
  · cases fitted.sourceCluster
    cases fitted.destinationCluster
    have all := fitted.asked.eq_of_length asks
    rcases fitted.host (by rw [all]; simp [TunnelObjects.placed]) with ⟨_, -, known⟩
    rcases fitted.fit.script with ⟨script, scripts_eq, started⟩
    have copied := started.read (by rw [known.host_eq rfl, host_eq]; exact plain)
    exact ⟨well, objects, copy, accepted, identity, script, fitted, fitted.finished well,
      scripts_eq, copied⟩

end Tunnel

end VolumeMigration
