import VolumeMigration.Failure

/-!
# Where clients come from

A client is made for a context of a kubeconfig, or from what the program finds around it when
neither is named. Reading kubeconfigs and making clients is the work of a library, of which a
`ClientFactory` holds the functions that connectors call. What a kubeconfig, a configuration and a
client are is left to it.
-/

namespace VolumeMigration

/-- The functions with which kubeconfigs are read and clients are made. They fail in words, but for
the last step, which fails as a request does. -/
structure ClientFactory (Document Config Client : Type) where
  /-- The kubeconfig in a file. -/
  read : LocalPath → Except String Document
  /-- The kubeconfig that is read where no file is named. -/
  readUnnamed : Except String Document
  currentContext : Document → Option String
  /-- What is needed to reach the cluster of a context, or of the current one. -/
  configure : Document → Option String → Except String Config
  /-- What is needed to reach the cluster that the program finds by itself. -/
  infer : Except String Config
  makeClient : Config → Except ApiFault Client
  /-- The namespace of objects for which none is given. -/
  defaultNs : Client → String

namespace ClientFactory

variable {Document Config Client : Type}

/-- The kubeconfig of an access. -/
def load (factory : ClientFactory Document Config Client) (access : ClusterAccess) :
    Except Failure Document :=
  (access.kubeconfig.elim factory.readUnnamed factory.read).mapError .kubeconfig

/-- An access with its context filled in. Without any kubeconfig an access that names no file is
kept as it is. -/
def resolve (factory : ClientFactory Document Config Client) (access : ClusterAccess) :
    Except Failure ClusterAccess :=
  if access.context.isSome then .ok access
  else
    match factory.load access, access.kubeconfig with
    | .ok document, path =>
        .ok (.ofTexts (path.map LocalPath.text) (factory.currentContext document))
    | .error _, none => .ok access
    | .error failure, some _ => .error failure

/-- What is needed to reach the cluster of a resolved access. One that names neither a file nor a
context is left to the factory. -/
def configuration (factory : ClientFactory Document Config Client) (access : ClusterAccess) :
    Except Failure Config :=
  if access.kubeconfig.isNone && access.context.isNone then factory.infer.mapError .kubeconfig
  else do
    let document ← factory.load access
    (factory.configure document access.context).mapError .kubeconfig

/-- A new client for a resolved access. -/
def client (factory : ClientFactory Document Config Client) (access : ClusterAccess) :
    Except Failure Client := do
  let config ← factory.configuration access
  (factory.makeClient config).mapError .api

end ClientFactory

end VolumeMigration
