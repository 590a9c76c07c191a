import VolumeMigration.Text.Split

/-!
# How a cluster is reached

A cluster is reached through a context of a kubeconfig file; either may be left open. Two accesses
name the same cluster when their contexts are equal and their files have equal paths. Paths are
compared by their components: repeated and trailing slashes do not count, and neither does a `.`,
except at the start of a relative path. The text of a path is kept as it was given.

`ClusterAccess.key` is the normal form that decides: `ClusterAccess.Same` is equality of keys.
-/

namespace VolumeMigration

/-- The path of a local file, as it was given. -/
structure LocalPath where
  text : String
  deriving DecidableEq

/-- What decides whether two paths are equal. -/
structure PathKey where
  absolute : Bool
  components : List String
  deriving DecidableEq

namespace LocalPath

/-- Whether a path starts at the root of the file system. -/
def isAbsolute (path : LocalPath) : Bool :=
  path.text.toList.head? == some '/'

/-- The parts of a path that name something. A single dot counts only at its beginning. -/
def components (path : LocalPath) : List String :=
  let pieces := Text.split '/' path.text
  let named := pieces.filter fun piece => piece != "" && piece != "."
  if pieces.head? = some "." then "." :: named else named

/-- What two spellings of a path have in common. -/
def key (path : LocalPath) : PathKey :=
  { absolute := path.isAbsolute, components := path.components }

/-- The path of a file that is named in another one: in the directory of that one, unless the name
starts at the root. -/
def beside (path : LocalPath) (file : String) : LocalPath :=
  if (LocalPath.mk file).isAbsolute then ⟨file⟩
  else
    let root := if path.key.absolute then "/" else ""
    ⟨root ++ String.intercalate "/" (path.key.components.dropLast ++ [file])⟩

/-- Paths that are equal by their components are in the same directory. -/
theorem beside_eq_of_key_eq {path other : LocalPath} (same : path.key = other.key) :
    path.beside = other.beside := by
  funext file
  rw [beside, beside, same]

end LocalPath

/-- The kubeconfig file and the context through which a cluster is reached. -/
structure ClusterAccess where
  kubeconfig : Option LocalPath
  context : Option String
  deriving DecidableEq

/-- What decides whether two accesses name the same cluster. -/
structure AccessKey where
  kubeconfig : Option PathKey
  context : Option String
  deriving DecidableEq

namespace ClusterAccess

/-- The access with a file and a context; an empty text leaves them open. -/
def ofTexts (kubeconfig context : Option String) : ClusterAccess :=
  { kubeconfig := (kubeconfig.filter (· != "")).map LocalPath.mk
    context := context.filter (· != "") }

/-- The access that leaves file and context open. -/
def default : ClusterAccess := { kubeconfig := none, context := none }

/-- What two spellings of an access have in common. -/
def key (access : ClusterAccess) : AccessKey :=
  { kubeconfig := access.kubeconfig.map LocalPath.key, context := access.context }

/-- Two accesses name the same context of the same file. -/
def Same (access other : ClusterAccess) : Prop :=
  access.key = other.key

instance (access other : ClusterAccess) : Decidable (access.Same other) :=
  inferInstanceAs (Decidable (access.key = other.key))

@[refl]
theorem Same.refl (access : ClusterAccess) : access.Same access :=
  rfl

theorem Same.symm {access other : ClusterAccess} (same : access.Same other) : other.Same access :=
  Eq.symm same

theorem Same.trans {access middle other : ClusterAccess} (left : access.Same middle)
    (right : middle.Same other) : access.Same other :=
  Eq.trans left right

/-- The access as messages show it, with the context in front of the file. -/
def text (access : ClusterAccess) : String :=
  access.context.getD "<current>" ++ "@" ++
    (access.kubeconfig.map LocalPath.text).getD "<default>"

end ClusterAccess

end VolumeMigration
