import VolumeMigration.Cluster.ClientFactory
import VolumeMigration.Kubeconfig.Credentials
import VolumeMigration.Kubeconfig.Decoding
import VolumeMigration.Yaml.Meaning

/-!
# Kubeconfig files

The kubeconfig of an access is read from the file that it names. Without one it is merged from the
files that the environment lists, the first one on top, or read from the standard file if none is
listed. A listed file that cannot be read spoils all. A file holds YAML; several documents in it
are merged like several files. A program that runs in a cluster can do without any of them.

`KubeconfigFiles.factory` is the client factory that reads these files. Its clients tell where
their requests go and which namespace they prefer; the credentials that they send are checked and
not kept.
-/

namespace VolumeMigration

/-- What a client shows of itself: where it is connected to. -/
structure ClusterConnection where
  server : String
  /-- The namespace of objects for which none is given. -/
  defaultNs : String
  deriving DecidableEq

/-- The kubeconfig files that can be found. -/
structure KubeconfigFiles where
  /-- The text of a file. -/
  contents : LocalPath → Option String
  /-- The files that the environment lists, with colons between them. -/
  listed : Option String
  /-- The file to read when none is named or listed. -/
  standard : Option LocalPath
  /-- The proxy to use for clusters that name none. -/
  proxy : Option String
  /-- The connection to the cluster that the program runs in, if it runs in one. -/
  ownCluster : Option ClusterConnection
  /-- Whether a program or a provider that has to be asked tells who a user is. -/
  identifies : UserEntry → Bool := fun _ => false

/-- What a client is made from. -/
inductive ClientConfig where
  /-- The cluster and the user of a context. -/
  | remote (target : Kubeconfig.Target) (endpoint : Kubeconfig.Target.Endpoint)
  /-- The cluster that the program runs in. -/
  | own (connection : ClusterConnection)

namespace KubeconfigFiles

/-- The files as bytes. -/
def bytes (files : KubeconfigFiles) : FileBytes := fun path =>
  (files.contents path).map fun text => text.toUTF8.toList

/-- Some kubeconfigs merged, the first one on top. -/
def mergeAll (configs : List Kubeconfig) : Except KubeconfigFault Kubeconfig :=
  configs.foldlM Kubeconfig.merge .empty

/-- A text without the mark at its start. -/
def withoutMark (text : String) : String :=
  match text.toList with
  | first :: rest => if first == Yaml.byteOrderMark then String.ofList rest else text
  | [] => text

/-- The kubeconfig that a text holds: its documents, merged. -/
def parse (path : LocalPath) (content : String) : Except KubeconfigFault Kubeconfig :=
  match (Yaml.values? (withoutMark content)).bind (·.mapM Kubeconfig.decode) with
  | some configs => mergeAll (configs.map (Kubeconfig.beside path))
  | none => .error (.malformedFile path.text)

/-- The configuration in one file. -/
def loadFile (files : KubeconfigFiles) (path : LocalPath) : Except KubeconfigFault Kubeconfig :=
  match files.contents path with
  | none => .error (.unreadableFile path.text)
  | some content => parse path content

/-- The paths that the environment lists, in order. -/
def listedPaths (files : KubeconfigFiles) : List LocalPath :=
  ((files.listed.elim [] (Text.split ':')).filter (· != "")).map LocalPath.mk

/-- The kubeconfig of an access that names no file. -/
def loadUnnamed (files : KubeconfigFiles) : Except KubeconfigFault Kubeconfig :=
  match files.listedPaths, files.standard with
  | [], none => .error .noStandardFile
  | [], some path => files.loadFile path
  | paths, _ => (paths.mapM files.loadFile).bind mergeAll

/-- What is needed to reach the cluster of a context of a kubeconfig. -/
def configure (files : KubeconfigFiles) (config : Kubeconfig) (context : Option String) :
    Except KubeconfigFault ClientConfig := do
  let target ← config.target context
  let target := target.through files.proxy
  return .remote target (← target.endpoint files.bytes)

/-- What is needed to reach a cluster when nothing is named: the current context leads to it, or
else it is the one that the program runs in. -/
def infer (files : KubeconfigFiles) : Except KubeconfigFault ClientConfig :=
  match files.loadUnnamed.bind (files.configure · none), files.ownCluster with
  | .ok config, _ => .ok config
  | .error _, some own => .ok (.own own)
  | .error fault, none => .error fault

/-- The connection that a client is made from. A remote one needs credentials that can be used. -/
def makeClient (files : KubeconfigFiles) : ClientConfig → Except ClientFault ClusterConnection
  | .remote target endpoint => do
      target.checkClient files.bytes files.identifies endpoint
      return { server := endpoint.server, defaultNs := target.context.ns.getD "default" }
  | .own connection => .ok connection

/-- The factory that reads these files. -/
def factory (files : KubeconfigFiles) :
    ClientFactory Kubeconfig ClientConfig ClusterConnection where
  read path := (files.loadFile path).mapError KubeconfigFault.text
  readUnnamed := files.loadUnnamed.mapError KubeconfigFault.text
  currentContext := Kubeconfig.currentContext
  configure config context := (files.configure config context).mapError KubeconfigFault.text
  infer := files.infer.mapError KubeconfigFault.text
  makeClient config := (files.makeClient config).mapError .noClient
  defaultNs := ClusterConnection.defaultNs

end KubeconfigFiles

end VolumeMigration
