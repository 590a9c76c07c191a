import VolumeMigration.Cluster.Connector
import VolumeMigration.Proofs.Cluster.Directory
import VolumeMigration.Proofs.Cluster.KubeconfigFiles

/-!
# Connectors that locate

`Connector.locateAll` answers questions for volumes one after the other with one connector. What the
connector has kept never shows in an answer, and in the end it has one client for each distinct
access of the volumes that it has located: `Connector.locateAll_transparent`, whatever factory makes
the clients. The invariant is `Connector.Keeps`.
-/

namespace VolumeMigration

/-- A question for a volume: an access, a namespace if one is given, and a name. -/
structure VolumeQuery where
  access : ClusterAccess
  ns : Option String
  name : String

variable {Document Config Client : Type}

/-- The volume that a question means, where no client has been kept. -/
def VolumeQuery.volume (factory : ClientFactory Document Config Client) (query : VolumeQuery) :
    Except Failure VolumeLocator := do
  let resolved ← factory.resolve query.access
  let client ← factory.client resolved
  return {
    access := resolved
    ns := (query.ns.filter (· != "")).getD (factory.defaultNs client)
    name := query.name }

namespace Connector

variable {factory : ClientFactory Document Config Client} {connector : Connector Client}

/-! ## One question -/

/-- A connector keeps the clients for some accesses: for each of them it has one, which is the one
that would be made anew. -/
structure Keeps (factory : ClientFactory Document Config Client) (connector : Connector Client)
    (accesses : List ClusterAccess) : Prop where
  distinct : connector.clients.keys.Nodup
  connected : ∀ key, key ∈ connector.clients.keys ↔ key ∈ accesses.map ClusterAccess.key
  made : ∀ entry ∈ connector.clients.entries, factory.client entry.1 = .ok entry.2

theorem keeps_empty : Keeps factory empty [] where
  distinct := .nil
  connected _ := .rfl
  made _ impossible := nomatch impossible

/-- An access that needs no resolving is looked up as it is, and only an unknown one gets a client.
-/
theorem connect_resolved {access : ClusterAccess} (resolves : factory.resolve access = .ok access) :
    connector.connect factory access =
      match connector.clients.get? access with
      | some known => .ok (known, connector)
      | none => (factory.client access).map fun made =>
          (made, ⟨connector.clients.insert access made⟩) := by
  simp only [connect, resolves, bind, Except.bind]
  cases connector.clients.get? access with
  | some known => rfl
  | none => cases factory.client access <;> rfl

namespace Keeps

variable {accesses : List ClusterAccess} {access : ClusterAccess}

/-- A client that is kept is the one that would be made. -/
theorem client_of_get? (keeps : connector.Keeps factory accesses)
    (componentwise : factory.Componentwise) {known : Client}
    (found : connector.clients.get? access = some known) :
    factory.client access = .ok known := by
  rcases ClusterSet.exists_entry_of_get? found with ⟨entry, kept, same, rfl⟩
  exact ClientFactory.client_of_same componentwise same (keeps.made entry kept)

/-- A new client is kept for its access, and every known access keeps its own. -/
theorem insert (keeps : connector.Keeps factory accesses) {client : Client}
    (made : factory.client access = .ok client) :
    Keeps factory ⟨connector.clients.insert access client⟩ (accesses ++ [access]) where
  distinct := ClusterSet.nodup_keys_insert keeps.distinct
  connected key := by
    rw [ClusterSet.mem_keys_insert_iff, keeps.connected key]
    simp [or_comm]
  made entry present := by
    rcases List.mem_cons.mp present with rfl | older
    · exact made
    · exact keeps.made entry (List.mem_filter.mp older).1

/-- What is kept already is kept again. -/
theorem again (keeps : connector.Keeps factory accesses)
    (present : access.key ∈ connector.clients.keys) :
    Keeps factory connector (accesses ++ [access]) where
  distinct := keeps.distinct
  connected key := by
    have known := (keeps.connected access.key).mp present
    rw [keeps.connected key, List.map_append, List.mem_append, List.map_singleton,
      List.mem_singleton, or_iff_left_of_imp]
    rintro rfl
    exact known
  made := keeps.made

/-- A client that cannot be made leaves no entry behind. -/
theorem connect_of_error (keeps : connector.Keeps factory accesses)
    (componentwise : factory.Componentwise) {failure : Failure}
    (resolves : factory.resolve access = .ok access)
    (refused : factory.client access = .error failure) :
    connector.connect factory access = .error failure := by
  rw [connect_resolved resolves]
  cases found : connector.clients.get? access with
  | some known =>
      rw [keeps.client_of_get? componentwise found] at refused
      cases refused
  | none =>
      rw [refused]
      rfl

/-- Whether it is new or known, an access gets the client that is made for it. -/
theorem connect_of_ok (keeps : connector.Keeps factory accesses)
    (componentwise : factory.Componentwise) {client : Client}
    (resolves : factory.resolve access = .ok access)
    (made : factory.client access = .ok client) :
    ∃ after, connector.connect factory access = .ok (client, after) ∧
      after.Keeps factory (accesses ++ [access]) := by
  rw [connect_resolved resolves]
  cases found : connector.clients.get? access with
  | some known =>
      rw [keeps.client_of_get? componentwise found] at made
      cases made
      exact ⟨connector, rfl, keeps.again (ClusterSet.mem_keys_of_get? found)⟩
  | none =>
      rw [made]
      exact ⟨_, rfl, keeps.insert made⟩

/-- A question is answered as if nothing had been kept. -/
theorem locate (keeps : connector.Keeps factory accesses) (componentwise : factory.Componentwise)
    (query : VolumeQuery) :
    (∃ failure, query.volume factory = .error failure ∧
      connector.locate factory query.access query.ns query.name = .error failure) ∨
    ∃ volume after, query.volume factory = .ok volume ∧
      connector.locate factory query.access query.ns query.name = .ok (volume, after) ∧
      after.Keeps factory (accesses ++ [volume.access]) := by
  unfold VolumeQuery.volume Connector.locate
  cases resolves : factory.resolve query.access with
  | error failure => exact .inl ⟨failure, rfl, rfl⟩
  | ok resolved =>
      have again := ClientFactory.resolve_resolved componentwise resolves
      simp only [bind, Except.bind]
      cases connects : factory.client resolved with
      | error failure =>
          rw [keeps.connect_of_error componentwise again connects]
          exact .inl ⟨failure, rfl, rfl⟩
      | ok client =>
          rcases keeps.connect_of_ok componentwise again connects with ⟨after, connected, kept⟩
          rw [connected]
          exact .inr ⟨_, after, rfl, rfl, kept⟩

end Keeps

/-! ## Many questions -/

/-- Answers questions one after the other, and ends with the connector that has kept what they led
to. -/
def locateAll (factory : ClientFactory Document Config Client) :
    Connector Client → List VolumeQuery →
      List (Except Failure VolumeLocator) × Connector Client
  | connector, [] => ([], connector)
  | connector, query :: rest =>
      match connector.locate factory query.access query.ns query.name with
      | .error failure =>
          let (answers, last) := locateAll factory connector rest
          (.error failure :: answers, last)
      | .ok (volume, after) =>
          let (answers, last) := locateAll factory after rest
          (.ok volume :: answers, last)

/-- The accesses of the volumes that were found. -/
def accessesOf (answers : List (Except Failure VolumeLocator)) : List ClusterAccess :=
  answers.filterMap fun answer => answer.toOption.map VolumeLocator.access

/-- Each volume of a list is located as if it were the only one. -/
theorem Keeps.locateAll {accesses : List ClusterAccess} (keeps : connector.Keeps factory accesses)
    (componentwise : factory.Componentwise) (queries : List VolumeQuery) :
    (connector.locateAll factory queries).1 = queries.map (·.volume factory) ∧
      (connector.locateAll factory queries).2.Keeps factory
        (accesses ++ accessesOf (queries.map (·.volume factory))) := by
  induction queries generalizing connector accesses with
  | nil => exact ⟨rfl, by simpa [Connector.locateAll, accessesOf] using keeps⟩
  | cons query rest ih =>
      rcases keeps.locate componentwise query with
        ⟨failure, refused, located⟩ | ⟨volume, after, answered, located, kept⟩
      · rcases ih keeps with ⟨answers_eq, last_keeps⟩
        simp only [Connector.locateAll, located, List.map_cons, refused]
        exact ⟨congrArg _ answers_eq, last_keeps⟩
      · rcases ih kept with ⟨answers_eq, last_keeps⟩
        rw [List.append_assoc] at last_keeps
        simp only [Connector.locateAll, located, List.map_cons, answered]
        exact ⟨congrArg _ answers_eq, last_keeps⟩

/-- The first volume is located with a client of its own. -/
theorem locate_empty (componentwise : factory.Componentwise) (query : VolumeQuery) :
    (empty.locate factory query.access query.ns query.name).map (·.1) = query.volume factory := by
  rcases keeps_empty.locate componentwise query with
    ⟨failure, refused, located⟩ | ⟨volume, after, answered, located, -⟩
  · rw [located, refused]
    rfl
  · rw [located, answered]
    rfl

/-! ## Handles -/

/-- There is one handle for each distinct one of some accesses. -/
structure Serves (clusters : ClusterSet ClusterHandle) (accesses : List ClusterAccess) : Prop where
  distinct : clusters.keys.Nodup
  handles : (clusters.entries.map (·.2)).Nodup
  connected : ∀ key, key ∈ clusters.keys ↔ key ∈ accesses.map ClusterAccess.key
  found : ∀ access ∈ accesses, ∃ handle, clusters.get access = .ok handle

theorem keys_clusters (connector : Connector Client) :
    connector.clusters.keys = connector.clients.keys := by
  calc connector.clusters.keys
      = (connector.clients.entries.zipIdx.map Prod.fst).map (·.1.key) := by
        rw [ClusterSet.keys, clusters, List.map_map, List.map_map]
        rfl
    _ = connector.clients.keys := by
        rw [List.zipIdx_map_fst]
        rfl

theorem handles_clusters (connector : Connector Client) :
    (connector.clusters.entries.map (·.2)).Nodup := by
  have indices := List.zipIdx_map_snd 0 connector.clients.entries
  have distinct : (connector.clients.entries.zipIdx.map Prod.snd).Nodup := by
    rw [indices]
    exact List.nodup_range'
  rw [clusters, List.map_map]
  exact (List.pairwise_map.mp distinct).map _ fun first second differ same =>
    differ (congrArg ClusterHandle.index same)

/-- What a connector keeps serves every access that it has seen. -/
theorem Keeps.serves {accesses : List ClusterAccess} (keeps : connector.Keeps factory accesses) :
    Serves connector.clusters accesses where
  distinct := by simpa [keys_clusters] using keeps.distinct
  handles := handles_clusters connector
  connected := by simpa [keys_clusters] using keeps.connected
  found access present := by
    apply ClusterSet.exists_get_of_mem_keys
    rw [keys_clusters, keeps.connected]
    exact List.mem_map_of_mem present

/-! ## Transparency -/

/-- What connectors promise to those who ask for volumes. The answers do not show what was asked
before, accesses that mean the same resolve to the same, and whoever was told of a volume finds the
handle of its cluster. What is kept is what would be made anew. -/
structure Transparent (factory : ClientFactory Document Config Client)
    (queries : List VolumeQuery) : Prop where
  answers : (empty.locateAll factory queries).1 = queries.map fun query =>
    (empty.locate factory query.access query.ns query.name).map (·.1)
  resolved : ∀ {access resolved}, factory.resolve access = .ok resolved →
    factory.resolve resolved = .ok resolved
  contexts : ∀ {access other context},
    access.kubeconfig.map LocalPath.key = other.kubeconfig.map LocalPath.key →
    factory.Names access context → factory.Names other context →
      factory.resolve access = .ok { access with context := some context } ∧
        factory.resolve other = .ok { other with context := some context } ∧
        ClusterAccess.Same { access with context := some context }
          { other with context := some context }
  serves : Serves (empty.locateAll factory queries).2.clusters
    (accessesOf (empty.locateAll factory queries).1)
  kept : ∀ entry ∈ (empty.locateAll factory queries).2.clients.entries,
    factory.client entry.1 = .ok entry.2

/-- Connectors keep their promise with every factory for which it does not matter how paths are
written. -/
theorem locateAll_transparent (componentwise : factory.Componentwise) (queries : List VolumeQuery) :
    Transparent factory queries := by
  rcases keeps_empty.locateAll componentwise queries with ⟨answers_eq, keeps⟩
  refine ⟨?_, ClientFactory.resolve_resolved componentwise, ?_, ?_, keeps.made⟩
  · rw [answers_eq]
    exact List.map_congr_left fun query _ => (locate_empty componentwise query).symm
  · intro access other context same names other_names
    refine ⟨ClientFactory.resolve_of_names componentwise names,
      ClientFactory.resolve_of_names componentwise other_names, ?_⟩
    simp [ClusterAccess.Same, ClusterAccess.key, same]
  · rw [answers_eq]
    exact keeps.serves

/-- A kubeconfig in one file, whatever the text of its path. -/
def sharedFiles : KubeconfigFiles where
  contents path :=
    if path.key = ⟨true, ["etc", "kube"]⟩ then
      some ("current-context: blue\n" ++
        "contexts:\n- name: blue\n  context:\n    cluster: sea\n" ++
        "clusters:\n- name: sea\n  cluster:\n    server: http://sea\n")
    else none
  listed := none
  standard := none
  proxy := none
  ownCluster := none

theorem componentwise_sharedFiles : sharedFiles.Componentwise where
  sameFile same := by simp only [sharedFiles, same]
  noEmptyPath := by decide

/-- Two volumes of one context, which is named once and left open once. -/
def sharedQueries : List VolumeQuery :=
  [{ access := ⟨some ⟨"/etc/kube"⟩, none⟩, ns := none, name := "old" },
    { access := ⟨some ⟨"/etc//kube/"⟩, some "blue"⟩, ns := some "sand", name := "new" }]

/-- Two paths of one file share a client, in one cluster. -/
theorem locateAll_transparent_shared :
    sharedFiles.factory.Componentwise ∧ Transparent sharedFiles.factory sharedQueries ∧
      (empty.locateAll sharedFiles.factory sharedQueries).1.map Except.toOption =
        [some ⟨⟨some ⟨"/etc/kube"⟩, some "blue"⟩, "default", "old"⟩,
          some ⟨⟨some ⟨"/etc//kube/"⟩, some "blue"⟩, "sand", "new"⟩] ∧
      (empty.locateAll sharedFiles.factory sharedQueries).2.clusters.size = 1 := by
  have componentwise := KubeconfigFiles.componentwise_factory componentwise_sharedFiles
  exact ⟨componentwise, locateAll_transparent componentwise sharedQueries, by decide +kernel,
    by decide +kernel⟩

end Connector

end VolumeMigration
