import VolumeMigration.Cluster.ClientFactory

/-!
# How accesses resolve

Of the factory that reads kubeconfigs and makes clients only one thing is assumed: that it does not
matter how the path of a file is written, `ClientFactory.Componentwise`. Then accesses with equal
keys get the same client. A resolved access resolves to itself, and accesses with equal kubeconfigs
that name the same context, `ClientFactory.Names`, resolve to the same access.
-/

namespace VolumeMigration

namespace ClientFactory

variable {Document Config Client : Type}

/-- What a kubeconfig is good for, another one is good for too: it has the same current context, and
the clients that can be made for its contexts can be made from the other one. -/
structure Replaces (factory : ClientFactory Document Config Client) (other document : Document) :
    Prop where
  current : factory.currentContext other = factory.currentContext document
  clients : ∀ {context : Option String} {config : Config} {client : Client},
    factory.configure document context = .ok config → factory.makeClient config = .ok client →
      ∃ found, factory.configure other context = .ok found ∧
        factory.makeClient found = .ok client

/-- A factory for which it does not matter how the path of a file is written. -/
structure Componentwise (factory : ClientFactory Document Config Client) : Prop where
  sameFile : ∀ {path other : LocalPath} {document : Document}, path.key = other.key →
    factory.read path = .ok document →
      ∃ found, factory.read other = .ok found ∧ factory.Replaces found document
  noEmptyPath : ∀ document, factory.read ⟨""⟩ ≠ .ok document

/-- An access names a context: its own, or else the one that its kubeconfig says is current. -/
def Names (factory : ClientFactory Document Config Client) (access : ClusterAccess)
    (context : String) : Prop :=
  access.context = some context ∨
    access.context = none ∧ context ≠ "" ∧
      ∃ document, factory.load access = .ok document ∧
        factory.currentContext document = some context

variable {factory : ClientFactory Document Config Client} {access other : ClusterAccess}
  {document : Document}

theorem Replaces.refl (document : Document) : factory.Replaces document document where
  current := rfl
  clients configured made := ⟨_, configured, made⟩

/-- Wrapping the failures of a step changes nothing where it succeeds. -/
theorem mapError_eq_ok_iff {ε δ α : Type} {result : Except ε α} {wrap : ε → δ} {value : α} :
    result.mapError wrap = .ok value ↔ result = .ok value := by
  cases result with
  | error fault => constructor <;> exact nofun
  | ok found => constructor <;> rintro ⟨⟩ <;> rfl

/-! ## Loading -/

theorem load_eq_ok_iff :
    factory.load access = .ok document ↔
      access.kubeconfig.elim factory.readUnnamed factory.read = .ok document :=
  mapError_eq_ok_iff

/-- Accesses whose kubeconfigs have equal paths load kubeconfigs that are good for the same. -/
theorem exists_load_of_same (componentwise : factory.Componentwise)
    (same : access.kubeconfig.map LocalPath.key = other.kubeconfig.map LocalPath.key)
    (loaded : factory.load access = .ok document) :
    ∃ found, factory.load other = .ok found ∧ factory.Replaces found document := by
  rw [load_eq_ok_iff] at loaded
  simp only [load_eq_ok_iff]
  cases kubeconfig : access.kubeconfig with
  | none =>
      cases others : other.kubeconfig with
      | none =>
          rw [kubeconfig] at loaded
          exact ⟨document, loaded, .refl document⟩
      | some path => simp [kubeconfig, others] at same
  | some path =>
      cases others : other.kubeconfig with
      | none => simp [kubeconfig, others] at same
      | some otherPath =>
          rw [kubeconfig] at loaded
          rw [kubeconfig, others] at same
          exact componentwise.sameFile (Option.some.inj same) loaded

/-- A kubeconfig that was loaded from a file was loaded from one with a name. -/
theorem filter_of_load (componentwise : factory.Componentwise)
    (loaded : factory.load access = .ok document) :
    ((access.kubeconfig.map LocalPath.text).filter (· != "")).map LocalPath.mk =
      access.kubeconfig := by
  cases kubeconfig : access.kubeconfig with
  | none => rfl
  | some path =>
      have named : path.text ≠ "" := by
        intro nameless
        have path_eq : path = ⟨""⟩ := congrArg LocalPath.mk nameless
        rw [load_eq_ok_iff, kubeconfig, path_eq] at loaded
        exact componentwise.noEmptyPath document loaded
      simp [Option.filter, named]

/-! ## Resolving -/

section Resolving

variable {resolved : ClusterAccess} {context : String}

/-- An access without a context gets the current one of its document. -/
theorem resolve_of_load (componentwise : factory.Componentwise) (unnamed : access.context = none)
    (loaded : factory.load access = .ok document) :
    factory.resolve access =
      .ok { access with context := (factory.currentContext document).filter (· != "") } := by
  have kept := filter_of_load componentwise loaded
  simp [resolve, unnamed, loaded, ClusterAccess.ofTexts, kept]

/-- Resolving changes an access only by giving it a context. -/
theorem eq_or_isSome_of_resolve (componentwise : factory.Componentwise)
    (resolves : factory.resolve access = .ok resolved) :
    resolved = access ∨ resolved.context.isSome := by
  cases named : access.context with
  | some context =>
      left
      simpa [resolve, named, eq_comm] using resolves
  | none =>
      cases loaded : factory.load access with
      | ok document =>
          rw [resolve_of_load componentwise named loaded] at resolves
          cases resolves
          cases current : (factory.currentContext document).filter (· != "") with
          | none => exact .inl (by rw [← named])
          | some context => exact .inr rfl
      | error failure =>
          left
          cases kubeconfig : access.kubeconfig with
          | none => simpa [resolve, named, kubeconfig, loaded, eq_comm] using resolves
          | some path => simp [resolve, named, kubeconfig, loaded] at resolves

/-- A resolved access resolves to itself. -/
theorem resolve_resolved (componentwise : factory.Componentwise)
    (resolves : factory.resolve access = .ok resolved) :
    factory.resolve resolved = .ok resolved := by
  rcases eq_or_isSome_of_resolve componentwise resolves with rfl | named
  · exact resolves
  · simp [resolve, named]

/-- An access that names a context resolves to that context. -/
theorem resolve_of_names (componentwise : factory.Componentwise)
    (names : factory.Names access context) :
    factory.resolve access = .ok { access with context := some context } := by
  rcases names with explicit | ⟨unnamed, nonempty, document, loaded, current⟩
  · rcases access with ⟨kubeconfig, _⟩
    cases explicit
    rfl
  · rw [resolve_of_load componentwise unnamed loaded, current]
    simp [Option.filter, nonempty]

end Resolving

/-! ## Making clients -/

section Making

variable {client : Client}

/-- Whether an access is left to the factory shows in its key. -/
theorem isNone_of_same (same : access.Same other) :
    (access.kubeconfig.isNone && access.context.isNone) =
      (other.kubeconfig.isNone && other.context.isNone) := by
  have kubeconfig := congrArg AccessKey.kubeconfig same
  have context : access.context = other.context := congrArg AccessKey.context same
  rw [context]
  cases first : access.kubeconfig <;> cases second : other.kubeconfig <;>
    simp [ClusterAccess.key, first, second] at kubeconfig ⊢

theorem client_eq_ok_iff :
    factory.client access = .ok client ↔
      ∃ config, factory.configuration access = .ok config ∧
        factory.makeClient config = .ok client := by
  cases configured : factory.configuration access with
  | error failure => simp [ClientFactory.client, configured, bind, Except.bind]
  | ok config => simp [ClientFactory.client, configured, bind, Except.bind, mapError_eq_ok_iff]

/-- A configuration comes from the kubeconfig of the access, or else from the factory alone. -/
theorem configuration_eq_ok_iff {config : Config}
    (named : (access.kubeconfig.isNone && access.context.isNone) = false) :
    factory.configuration access = .ok config ↔
      ∃ document, factory.load access = .ok document ∧
        factory.configure document access.context = .ok config := by
  cases loaded : factory.load access with
  | error failure => simp [configuration, named, loaded, bind, Except.bind]
  | ok document => simp [configuration, named, loaded, bind, Except.bind, mapError_eq_ok_iff]

/-- Accesses that mean the same get the same client. -/
theorem client_of_same (componentwise : factory.Componentwise) (same : access.Same other)
    (made : factory.client access = .ok client) : factory.client other = .ok client := by
  have context : access.context = other.context := congrArg AccessKey.context same
  rcases client_eq_ok_iff.mp made with ⟨config, configured, made⟩
  rw [client_eq_ok_iff]
  cases named : access.kubeconfig.isNone && access.context.isNone with
  | true =>
      have other_named := isNone_of_same same
      rw [named] at other_named
      rw [configuration, if_pos named] at configured
      exact ⟨config, by rw [configuration, if_pos other_named.symm, configured], made⟩
  | false =>
      have other_named := isNone_of_same same
      rw [named] at other_named
      rcases (configuration_eq_ok_iff named).mp configured with ⟨document, loaded, configured⟩
      rcases exists_load_of_same componentwise (congrArg AccessKey.kubeconfig same) loaded with
        ⟨found, found_loaded, replaces⟩
      rcases replaces.clients configured made with ⟨config, found_configured, found_made⟩
      rw [context] at found_configured
      exact ⟨config, (configuration_eq_ok_iff other_named.symm).mpr
        ⟨found, found_loaded, found_configured⟩, found_made⟩

end Making

end ClientFactory

end VolumeMigration
