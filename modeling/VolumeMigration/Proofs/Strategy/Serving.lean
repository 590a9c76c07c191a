import VolumeMigration.Proofs.Cluster.Directory
import VolumeMigration.Proofs.Cluster.Spelling
import VolumeMigration.Proofs.Run.Scenario

/-!
# The clusters that serve an attempt

`ClusterSet.ofInsertions_reflects`: whatever is inserted, a set of clusters is a finite map of
accesses, compared as paths and contexts are, and an attempt finds the same cluster for both of its
volumes, or none for either, when these are in the same cluster.
-/

namespace VolumeMigration

/-- The volumes of a request are served by the same cluster, or both lack one. -/
inductive AttemptContext.ServedAlike (context : AttemptContext) : Prop where
  | served (cluster : ClusterHandle) (source : context.sourceCluster = .ok cluster)
      (destination : context.destinationCluster = .ok cluster)
  | unserved
      (source : context.sourceCluster =
        .error (.configuration (.missingClient context.request.source.access)))
      (destination : context.destinationCluster =
        .error (.configuration (.missingClient context.request.destination.access)))

/-- Volumes with the same access are served by the same cluster. -/
theorem AttemptContext.servedAlike {context : AttemptContext}
    (same : context.request.source.SameCluster context.request.destination) :
    context.ServedAlike := by
  have alike : context.clusters.get? context.request.destination.access =
      context.clusters.get? context.request.source.access :=
    ClusterSet.get?_of_same same
  cases found : context.clusters.get? context.request.source.access with
  | some cluster =>
      rw [found] at alike
      exact .served cluster (ClusterSet.get_eq_ok_iff.mpr found)
        (ClusterSet.get_eq_ok_iff.mpr alike)
  | none =>
      rw [found] at alike
      exact .unserved (ClusterSet.get_eq_error_iff.mpr ⟨found, rfl⟩)
        (ClusterSet.get_eq_error_iff.mpr ⟨alike, rfl⟩)

namespace ClusterSet

variable {η : Type}

/-- What a set of clusters shows of the insertions that made it: for each access the cluster that
was inserted last under one that is the same, and for all of them how many clusters they name. -/
structure Reflects (clusters : ClusterSet η) (insertions : List (ClusterAccess × η)) : Prop where
  finds : ∀ access cluster,
    clusters.get access = .ok cluster ↔ LastInserted insertions access cluster
  lacks : ∀ access failure,
    clusters.get access = .error failure ↔
      (∀ insertion ∈ insertions, ¬insertion.1.Same access) ∧
        failure = .configuration (.missingClient access)
  represented : ∃ representatives,
    ClusterAccess.Represent representatives (insertions.map Prod.fst)
  counts : ∀ representatives,
    ClusterAccess.Represent representatives (insertions.map Prod.fst) →
      clusters.size = representatives.length

/-- A set of clusters shows its insertions up to the spelling of their accesses, and an attempt
that looks for the clusters of its volumes does not see that spelling either. -/
theorem ofInsertions_reflects (insertions : List (ClusterAccess × η)) :
    (ofInsertions insertions).Reflects insertions ∧
      Equivalence ClusterAccess.Same ∧
      (∀ access other : ClusterAccess,
        access.Same other ↔
          access.context = other.context ∧
            Option.Rel LocalPath.Alike access.kubeconfig other.kubeconfig) ∧
      ∀ context : AttemptContext,
        context.request.source.SameCluster context.request.destination →
          context.ServedAlike := by
  refine ⟨?_, ?_, fun _ _ => ClusterAccess.same_iff, fun _ => AttemptContext.servedAlike⟩
  · constructor
    · intro access cluster
      rw [get_eq_ok_iff, get?_ofInsertions_eq_some_iff]
    · intro access failure
      rw [get_eq_error_iff, get?_ofInsertions_eq_none_iff]
    · exact exists_represent insertions
    · intro representatives
      exact size_ofInsertions
  · exact ⟨.refl, .symm, .trans⟩

/-- Insertions for two clusters: one of them is inserted again, under another spelling. -/
def respelled : List (ClusterAccess × ClusterHandle) :=
  [(⟨some ⟨"/etc//kube"⟩, some "blue"⟩, ⟨0⟩),
    (⟨none, some "blue"⟩, ⟨1⟩),
    (⟨some ⟨"/etc/./kube/"⟩, some "blue"⟩, ⟨2⟩)]

/-- An attempt of a request whose volumes spell the path of their kubeconfig differently. -/
def respelledContext : AttemptContext :=
  let request :=
    { Quiet.request with
      source := { Quiet.volume "old" with access := ⟨some ⟨"/etc/kube"⟩, some "blue"⟩ }
      destination := { Quiet.volume "new" with access := ⟨some ⟨"/etc/kube/."⟩, some "blue"⟩ } }
  Quiet.engine.context request (ofInsertions respelled) 0

/-- Paths of one file that are written differently lead to the cluster that was inserted last. -/
theorem ofInsertions_reflects_respelled :
    respelledContext.request.source.SameCluster respelledContext.request.destination ∧
      respelledContext.ServedAlike ∧
      respelledContext.sourceCluster = .ok ⟨2⟩ ∧
      (ofInsertions respelled).size = 2 := by
  rcases ofInsertions_reflects respelled with ⟨reflects, -, -, servedAlike⟩
  have same : respelledContext.request.source.SameCluster respelledContext.request.destination := by
    decide
  have represent : ClusterAccess.Represent
      [⟨some ⟨"/etc//kube"⟩, some "blue"⟩, ⟨none, some "blue"⟩] (respelled.map Prod.fst) :=
    ⟨by decide, by decide, by decide⟩
  have parted : respelled =
      respelled.take 2 ++ [(⟨some ⟨"/etc/./kube/"⟩, some "blue"⟩, ⟨2⟩)] :=
    rfl
  have last : LastInserted respelled respelledContext.request.source.access ⟨2⟩ :=
    .under parted (by decide) (List.forall_mem_nil _)
  exact ⟨same, servedAlike respelledContext same, (reflects.finds _ _).mpr last,
    reflects.counts _ represent⟩

end ClusterSet

end VolumeMigration
