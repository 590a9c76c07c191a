import VolumeMigration.Kubeconfig.Files
import VolumeMigration.Proofs.Cluster.Resolution

/-!
# Kubeconfig files as a client factory

Where files do not depend on how their paths are written, `KubeconfigFiles.Componentwise`, neither
does what their factory reads and makes (`KubeconfigFiles.componentwise_factory`): what a kubeconfig
refers to is looked for in its own directory, however the file itself is named.
-/

namespace VolumeMigration

theorem Kubeconfig.beside_eq_of_key_eq {path other : LocalPath} (same : path.key = other.key) :
    Kubeconfig.beside path = Kubeconfig.beside other := by
  have besides := LocalPath.beside_eq_of_key_eq same
  funext config
  simp only [Kubeconfig.beside, materialBeside, besides]

namespace KubeconfigFiles

/-- Files that do not depend on how their paths are written. -/
structure Componentwise (files : KubeconfigFiles) : Prop where
  sameFile : ∀ {path other : LocalPath}, path.key = other.key →
    files.contents path = files.contents other
  noEmptyPath : files.contents ⟨""⟩ = none

variable {files : KubeconfigFiles} {config : Kubeconfig}

/-- What a file means does not depend on how its path is spelled. -/
theorem parse_of_key_eq {path other : LocalPath} {content : String} (same : path.key = other.key)
    (parsed : parse path content = .ok config) : parse other content = .ok config := by
  unfold parse at parsed ⊢
  rw [← Kubeconfig.beside_eq_of_key_eq same]
  split at parsed
  · exact parsed
  · cases parsed

/-- A file can be loaded by any spelling of its path, if it can be opened by any. -/
theorem loadFile_of_key_eq (componentwise : files.Componentwise) {path other : LocalPath}
    (same : path.key = other.key) (loaded : files.loadFile path = .ok config) :
    files.loadFile other = .ok config := by
  unfold loadFile at loaded ⊢
  rw [← componentwise.sameFile same]
  split at loaded
  · cases loaded
  · exact parse_of_key_eq same loaded

/-- The factory of such files does not depend on how paths are written either. -/
theorem componentwise_factory (componentwise : files.Componentwise) :
    files.factory.Componentwise where
  sameFile same read := by
    have loaded := ClientFactory.mapError_eq_ok_iff.mp read
    exact ⟨_, ClientFactory.mapError_eq_ok_iff.mpr (loadFile_of_key_eq componentwise same loaded),
      .refl _⟩
  noEmptyPath config read := by
    have loaded := ClientFactory.mapError_eq_ok_iff.mp read
    simp [loadFile, componentwise.noEmptyPath] at loaded

end KubeconfigFiles

end VolumeMigration
