import VolumeMigration.Access
import VolumeMigration.Text.Quoted

/-!
# Kubeconfigs

A kubeconfig names clusters, users and contexts; a context pairs a cluster with a user and may
prefer a namespace. `Kubeconfig.merge` lays one kubeconfig under another: what the upper one names
hides what the lower one calls by the same name. `Kubeconfig.target` follows a context to its
cluster and its user.
-/

namespace VolumeMigration

/-- What a kubeconfig keeps under a name. -/
structure NamedEntry (α : Type) where
  name : String
  value : Option α
  deriving DecidableEq

namespace NamedEntry

variable {α : Type}

/-- What the first entry with a name keeps. -/
def lookup (entries : List (NamedEntry α)) (name : String) : Option α :=
  (entries.find? (·.name = name)).bind NamedEntry.value

/-- Some entries with others under them; those with a name that is taken are hidden. -/
def layered (upper lower : List (NamedEntry α)) : List (NamedEntry α) :=
  upper ++ lower.filter fun entry => !upper.any (·.name = entry.name)

end NamedEntry

/-- A key or a certificate: in Base64, or in a file, which counts only without the former. -/
structure KeyMaterial where
  data : Option String
  file : Option LocalPath
  deriving DecidableEq

/-- A cluster as a kubeconfig describes it. -/
structure ClusterEntry where
  server : Option String
  /-- The certificates that prove who the server is. -/
  authority : KeyMaterial
  /-- The server through which the cluster is reached. -/
  proxy : Option String
  /-- The name that the server proves to have. -/
  serverName : Option String
  deriving DecidableEq

/-- A named way to learn who one is, with its settings. -/
structure AuthProvider where
  name : String
  settings : List (String × String)
  deriving DecidableEq

/-- A user as a kubeconfig describes it. -/
structure UserEntry where
  username : Option String
  password : Option String
  token : Option String
  tokenFile : Option LocalPath
  certificate : KeyMaterial
  key : KeyMaterial
  /-- The user and the groups that the user acts for. -/
  actsFor : Option String
  actsForGroups : List String
  provider : Option AuthProvider
  /-- Whether a program has to be asked who one is. -/
  asksProgram : Bool
  deriving DecidableEq

/-- The user of a context that names none. -/
def UserEntry.anonymous : UserEntry :=
  { username := none, password := none, token := none, tokenFile := none
    certificate := ⟨none, none⟩, key := ⟨none, none⟩, actsFor := none, actsForGroups := []
    provider := none, asksProgram := false }

/-- A context: a cluster, who one is there, and a namespace to prefer. -/
structure ContextEntry where
  cluster : String
  user : Option String
  ns : Option String
  deriving DecidableEq

/-- Why a kubeconfig cannot be used. -/
inductive KubeconfigFault where
  | unreadableFile (path : String)
  | malformedFile (path : String)
  /-- Two files disagree about the kind or the version of what they hold. -/
  | mixedKinds
  | noStandardFile
  | noCurrentContext
  | unknownContext (name : String)
  | unknownCluster (name : String)
  | noServer (cluster : String)
  | invalidServer (address : String)
  | invalidProxy (address : String)
  | unreadableAuthority (cluster : String)
  deriving DecidableEq

/-- The fault in one line. -/
def KubeconfigFault.text : KubeconfigFault → String
  | .unreadableFile path => "failed to read kubeconfig from " ++ Text.quoted path
  | .malformedFile path => "failed to parse kubeconfig in " ++ Text.quoted path
  | .mixedKinds => "kubeconfigs of different kinds cannot be merged"
  | .noStandardFile => "failed to find the path of a kubeconfig"
  | .noCurrentContext => "no current context is set"
  | .unknownContext name => "failed to load context " ++ name
  | .unknownCluster name => "failed to load the cluster of the context: " ++ name
  | .noServer cluster => "cluster " ++ cluster ++ " has no server"
  | .invalidServer address => "failed to parse the address of the cluster: " ++ address
  | .invalidProxy address => "failed to parse the address of the proxy: " ++ address
  | .unreadableAuthority cluster =>
      "failed to load the certificates of the cluster: " ++ cluster

/-- A kubeconfig. -/
structure Kubeconfig where
  clusters : List (NamedEntry ClusterEntry)
  users : List (NamedEntry UserEntry)
  contexts : List (NamedEntry ContextEntry)
  currentContext : Option String
  kind : Option String
  apiVersion : Option String
  deriving DecidableEq

namespace Kubeconfig

/-- The configuration without any entries, into which files are merged. -/
def empty : Kubeconfig :=
  { clusters := [], users := [], contexts := [], currentContext := none, kind := none
    apiVersion := none }

/-- Two optional texts do not contradict each other. -/
def Agree (text other : Option String) : Prop :=
  text = none ∨ other = none ∨ text = other

instance (text other : Option String) : Decidable (Agree text other) :=
  inferInstanceAs (Decidable (_ ∨ _))

/-- A kubeconfig with another one under it. -/
def merge (upper lower : Kubeconfig) : Except KubeconfigFault Kubeconfig :=
  if Agree upper.kind lower.kind ∧ Agree upper.apiVersion lower.apiVersion then
    .ok {
      clusters := NamedEntry.layered upper.clusters lower.clusters
      users := NamedEntry.layered upper.users lower.users
      contexts := NamedEntry.layered upper.contexts lower.contexts
      currentContext := upper.currentContext.or lower.currentContext
      kind := upper.kind.or lower.kind
      apiVersion := upper.apiVersion.or lower.apiVersion }
  else .error .mixedKinds

/-- What a lookup found, or a fault. -/
def found {α : Type} (value : Option α) (fault : KubeconfigFault) : Except KubeconfigFault α :=
  match value with
  | some value => .ok value
  | none => .error fault

/-- The name of the context to follow: a given one, or the current one. -/
def contextName (config : Kubeconfig) (context : Option String) :
    Except KubeconfigFault String :=
  found (context.or config.currentContext) .noCurrentContext

/-- Where a context leads. -/
structure Target where
  context : ContextEntry
  cluster : ClusterEntry
  user : UserEntry

/-- Where a context leads. A context without a user, or with one that is not known, has the user
that proves nothing. -/
def target (config : Kubeconfig) (context : Option String) : Except KubeconfigFault Target := do
  let name ← config.contextName context
  let entry ← found (NamedEntry.lookup config.contexts name) (.unknownContext name)
  let cluster ← found (NamedEntry.lookup config.clusters entry.cluster)
    (.unknownCluster entry.cluster)
  let user := (entry.user.bind (NamedEntry.lookup config.users)).getD .anonymous
  return { context := entry, cluster, user }

/-- Key material whose file is looked for in the directory of another file. -/
def materialBeside (path : LocalPath) (material : KeyMaterial) : KeyMaterial :=
  { material with file := material.file.map fun file => path.beside file.text }

/-- A kubeconfig whose files are looked for in the directory of another file. -/
def beside (path : LocalPath) (config : Kubeconfig) : Kubeconfig :=
  let ofCluster (cluster : ClusterEntry) : ClusterEntry :=
    { cluster with authority := materialBeside path cluster.authority }
  let ofUser (user : UserEntry) : UserEntry :=
    { user with
      tokenFile := user.tokenFile.map fun file => path.beside file.text
      certificate := materialBeside path user.certificate
      key := materialBeside path user.key }
  { config with
    clusters := config.clusters.map fun entry => { entry with value := entry.value.map ofCluster }
    users := config.users.map fun entry => { entry with value := entry.value.map ofUser } }

/-- The files that a kubeconfig refers to. -/
def localFiles (config : Kubeconfig) : List LocalPath :=
  let ofCluster (cluster : ClusterEntry) : List LocalPath := cluster.authority.file.toList
  let ofUser (user : UserEntry) : List LocalPath :=
    user.tokenFile.toList ++ user.certificate.file.toList ++ user.key.file.toList
  (config.clusters.flatMap fun entry => entry.value.elim [] ofCluster) ++
    config.users.flatMap fun entry => entry.value.elim [] ofUser

end Kubeconfig

end VolumeMigration
