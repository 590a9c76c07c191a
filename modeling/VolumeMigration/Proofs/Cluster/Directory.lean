import Mathlib.Data.List.Induction
import VolumeMigration.Cluster.Directory

/-!
# Sets of clusters as finite maps

A set of clusters that some insertions make, `ClusterSet.ofInsertions`, gives for an access the
cluster that was inserted last under an access that is the same (`get?_ofInsertions_eq_some_iff`),
and it has one cluster for each of the accesses that differ (`size_ofInsertions`). What decides is
the keys of the accesses, `ClusterSet.keys`, of which a set has none twice.
-/

namespace VolumeMigration

/-- Accesses that stand for some others: one of them for each cluster that those name. -/
structure ClusterAccess.Represent (representatives accesses : List ClusterAccess) : Prop where
  given : representatives ⊆ accesses
  apart : representatives.Pairwise fun access other => ¬access.Same other
  each : ∀ access ∈ accesses, ∃ representative ∈ representatives, representative.Same access

namespace ClusterSet

variable {η : Type} {clusters : ClusterSet η} {access other : ClusterAccess} {cluster : η}

/-! ## Keys -/

/-- What the accesses of a set are compared by. -/
def keys (clusters : ClusterSet η) : List AccessKey :=
  clusters.entries.map fun entry => entry.1.key

/-- What is found was inserted under the same access. -/
theorem exists_entry_of_get? (found : clusters.get? access = some cluster) :
    ∃ entry ∈ clusters.entries, entry.1.Same access ∧ entry.2 = cluster := by
  rcases Option.map_eq_some_iff.mp found with ⟨entry, sought, rfl⟩
  exact ⟨entry, List.mem_of_find?_eq_some sought, by simpa using List.find?_some sought, rfl⟩

theorem mem_keys_of_get? (found : clusters.get? access = some cluster) :
    access.key ∈ clusters.keys := by
  rcases exists_entry_of_get? found with ⟨entry, present, same, -⟩
  exact List.mem_map.mpr ⟨entry, present, same⟩

/-- Every access with a known key leads to a cluster. -/
theorem exists_get_of_mem_keys (present : access.key ∈ clusters.keys) :
    ∃ cluster, clusters.get access = .ok cluster := by
  rcases List.mem_map.mp present with ⟨entry, entry_mem, same⟩
  have sought : (clusters.entries.find? fun entry => entry.1.Same access).isSome :=
    List.find?_isSome.mpr ⟨entry, entry_mem, decide_eq_true same⟩
  rcases Option.isSome_iff_exists.mp sought with ⟨found, found_eq⟩
  exact ⟨found.2, by simp [get, get?, found_eq]⟩

/-- An insertion puts its key in front and drops the older one. -/
theorem keys_insert :
    (clusters.insert access cluster).keys =
      access.key :: clusters.keys.filter (¬ · = access.key) := by
  rw [keys, keys, List.filter_map]
  rfl

/-- Keys stay apart when a cluster is inserted. -/
theorem nodup_keys_insert (distinct : clusters.keys.Nodup) :
    (clusters.insert access cluster).keys.Nodup := by
  rw [keys_insert]
  refine List.nodup_cons.mpr ⟨?_, distinct.filter _⟩
  simp

theorem mem_keys_insert_iff {key : AccessKey} :
    key ∈ (clusters.insert access cluster).keys ↔ key = access.key ∨ key ∈ clusters.keys := by
  rw [keys_insert]
  by_cases same : key = access.key <;> simp [same]

/-! ## Lookups -/

theorem get_eq_ok_iff :
    clusters.get access = .ok cluster ↔ clusters.get? access = some cluster := by
  unfold get
  cases clusters.get? access <;> simp

/-- The only failure of a lookup is that its access is missing. -/
theorem get_eq_error_iff {failure : Failure} :
    clusters.get access = .error failure ↔
      clusters.get? access = none ∧ failure = .configuration (.missingClient access) := by
  unfold get
  cases clusters.get? access <;> simp [eq_comm]

theorem kind_of_get {failure : Failure} (missing : clusters.get access = .error failure) :
    failure.kind ≠ .cancelled := by
  rw [(get_eq_error_iff.mp missing).2]
  simp [Failure.kind]

/-- Accesses that are the same lead to the same. -/
theorem get?_of_same (same : access.Same other) : clusters.get? other = clusters.get? access := by
  unfold get?
  congr 2
  funext entry
  rw [decide_eq_decide]
  exact ⟨fun with_other => with_other.trans same.symm, fun with_access => with_access.trans same⟩

/-- Accesses that are the same lead to one cluster. -/
theorem get_of_same (same : access.Same other) (found : clusters.get access = .ok cluster) :
    clusters.get other = .ok cluster := by
  rw [get_eq_ok_iff] at found ⊢
  rwa [get?_of_same same]

/-- An insertion changes the lookups of its own access, and no others. -/
theorem get?_insert :
    (clusters.insert access cluster).get? other =
      if access.Same other then some cluster else clusters.get? other := by
  unfold get? insert
  by_cases same : access.Same other
  · simp [same]
  · -- what the insertion drops would not have been found
    have kept : ∀ entry : ClusterAccess × η, entry.1.Same other → ¬entry.1.Same access :=
      fun _ with_other with_access => same (with_access.symm.trans with_other)
    rw [List.find?_cons_of_neg (by simpa using same), List.find?_filter, if_neg same]
    congr 2
    funext entry
    simpa using kept entry

/-! ## Insertions -/

/-- The set that some insertions make, the first of them first. -/
def ofInsertions (insertions : List (ClusterAccess × η)) : ClusterSet η :=
  insertions.foldl (fun clusters insertion => clusters.insert insertion.1 insertion.2) empty

/-- A cluster was inserted under an access, and no other one after it. -/
inductive LastInserted (insertions : List (ClusterAccess × η)) (access : ClusterAccess)
    (cluster : η) : Prop where
  | under {before after : List (ClusterAccess × η)} {given : ClusterAccess}
      (parted : insertions = before ++ (given, cluster) :: after) (same : given.Same access)
      (untouched : ∀ later ∈ after, ¬later.1.Same access) : LastInserted insertions access cluster

variable {insertions : List (ClusterAccess × η)}

/-- One more insertion is the last one. -/
theorem ofInsertions_concat (insertion : ClusterAccess × η) :
    ofInsertions (insertions ++ [insertion]) =
      (ofInsertions insertions).insert insertion.1 insertion.2 :=
  List.foldl_append

theorem lastInserted_concat_iff (insertion : ClusterAccess × η) :
    LastInserted (insertions ++ [insertion]) access cluster ↔
      if insertion.1.Same access then insertion.2 = cluster
      else LastInserted insertions access cluster := by
  constructor
  · rintro @⟨before, after, given, parted, same, untouched⟩
    rcases List.eq_nil_or_concat after with rfl | ⟨earlier, last, rfl⟩
    · rcases List.append_inj' parted rfl with ⟨-, ⟨⟩⟩
      rw [if_pos same]
    · rw [List.concat_eq_append] at parted untouched
      rw [← List.cons_append, ← List.append_assoc] at parted
      rcases List.append_inj' parted rfl with ⟨rfl, ⟨⟩⟩
      have passed : ¬insertion.1.Same access := untouched insertion (by simp)
      rw [if_neg passed]
      exact ⟨rfl, same, fun later later_mem => untouched later (List.mem_append_left _ later_mem)⟩
  · by_cases same : insertion.1.Same access
    · rw [if_pos same]
      rintro rfl
      exact ⟨rfl, same, fun _ impossible => nomatch impossible⟩
    · rw [if_neg same]
      rintro @⟨before, after, given, rfl, same_given, untouched⟩
      refine ⟨List.append_assoc before _ _, same_given, ?_⟩
      intro later later_mem
      rcases List.mem_append.mp later_mem with older | newest
      · exact untouched later older
      · rwa [List.mem_singleton.mp newest]

/-- A lookup finds exactly the last insertion under its access. -/
theorem get?_ofInsertions_eq_some_iff :
    (ofInsertions insertions).get? access = some cluster ↔
      LastInserted insertions access cluster := by
  induction insertions using List.reverseRecOn with
  | nil =>
      constructor
      · intro found
        cases found
      · rintro ⟨parted, -, -⟩
        simp at parted
  | append_singleton insertions insertion ih =>
      rw [ofInsertions_concat, get?_insert, lastInserted_concat_iff, ← ih]
      split <;> simp

/-- A lookup finds nothing exactly if nothing was inserted under its access. -/
theorem get?_ofInsertions_eq_none_iff :
    (ofInsertions insertions).get? access = none ↔
      ∀ insertion ∈ insertions, ¬insertion.1.Same access := by
  induction insertions using List.reverseRecOn with
  | nil => simp [ofInsertions, get?, empty]
  | append_singleton insertions insertion ih =>
      rw [ofInsertions_concat, get?_insert, List.forall_mem_append, List.forall_mem_singleton, ← ih]
      split <;> simp [*]

/-! ## Size -/

theorem entries_ofInsertions_subset : (ofInsertions insertions).entries ⊆ insertions := by
  induction insertions using List.reverseRecOn with
  | nil => exact List.nil_subset _
  | append_singleton insertions insertion ih =>
      rw [ofInsertions_concat]
      rintro entry (_ | ⟨_, older⟩)
      · simp
      · exact List.mem_append_left _ (ih (List.mem_filter.mp older).1)

theorem nodup_keys_ofInsertions : (ofInsertions insertions).keys.Nodup := by
  induction insertions using List.reverseRecOn with
  | nil => exact .nil
  | append_singleton insertions insertion ih =>
      rw [ofInsertions_concat]
      exact nodup_keys_insert ih

theorem mem_keys_ofInsertions_iff {key : AccessKey} :
    key ∈ (ofInsertions insertions).keys ↔
      key ∈ (insertions.map Prod.fst).map ClusterAccess.key := by
  induction insertions using List.reverseRecOn with
  | nil => rfl
  | append_singleton insertions insertion ih =>
      rw [ofInsertions_concat, mem_keys_insert_iff, ih]
      simp [or_comm]

theorem exists_represent (insertions : List (ClusterAccess × η)) :
    ∃ representatives, ClusterAccess.Represent representatives (insertions.map Prod.fst) := by
  refine ⟨(ofInsertions insertions).entries.map Prod.fst, ?_, ?_, ?_⟩
  · exact List.map_subset _ entries_ofInsertions_subset
  · exact List.pairwise_map.mpr (List.pairwise_map.mp nodup_keys_ofInsertions)
  · intro access access_mem
    have present := mem_keys_ofInsertions_iff.mpr (List.mem_map_of_mem access_mem)
    rcases List.mem_map.mp present with ⟨entry, entry_mem, same⟩
    exact ⟨entry.1, List.mem_map_of_mem entry_mem, same⟩

/-- There are as many entries as accesses that are not the same. -/
theorem size_ofInsertions {representatives : List ClusterAccess}
    (represent : ClusterAccess.Represent representatives (insertions.map Prod.fst)) :
    (ofInsertions insertions).size = representatives.length := by
  have distinct : (representatives.map ClusterAccess.key).Nodup :=
    List.pairwise_map.mpr represent.apart
  have alike : ∀ key,
      key ∈ (ofInsertions insertions).keys ↔ key ∈ representatives.map ClusterAccess.key := by
    intro key
    rw [mem_keys_ofInsertions_iff]
    constructor
    · intro key_mem
      rcases List.mem_map.mp key_mem with ⟨access, access_mem, rfl⟩
      rcases represent.each access access_mem with ⟨representative, present, same⟩
      exact List.mem_map.mpr ⟨representative, present, same⟩
    · exact fun key_mem => List.map_subset _ represent.given key_mem
  calc (ofInsertions insertions).size
      = (ofInsertions insertions).keys.length := by
        rw [keys, List.length_map]
        rfl
    _ = (representatives.map ClusterAccess.key).length :=
        ((List.perm_ext_iff_of_nodup nodup_keys_ofInsertions distinct).mpr alike).length_eq
    _ = representatives.length := List.length_map _

end ClusterSet

end VolumeMigration
