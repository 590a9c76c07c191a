import VolumeMigration.Cluster.Connector
import VolumeMigration.CommandLine.Invocation
import VolumeMigration.Kubeconfig.Files
import VolumeMigration.Kubernetes.Client
import VolumeMigration.Run.Engine

/-!
# The program

The program locates both volumes, which connects to their clusters, and then runs the request on
all known strategies. What it does it tells in the log; the last line of a migration that fails
says why. `Program.run` answers the exit code and the lines that are to be shown.
-/

namespace VolumeMigration

/-- What the program finds around it. -/
structure Surroundings (σ : Type) where
  files : KubeconfigFiles
  /-- The way to the API server of each connected cluster. -/
  transport : ClusterHandle → Transport σ
  /-- What is drawn for the attempt at each position. -/
  draws : Nat → AttemptDraw
  /-- The time at which the program starts. -/
  startedAt : Instant

/-- Clusters that are asked through their API servers. -/
def clientEnvironment {σ : Type} (transport : ClusterHandle → Transport σ) : Environment σ :=
  { respond := fun handle call _ state =>
      let (result, after) := (ClusterClient.call call).run (transport handle) state
      (⟨result, false⟩, after)
    cancelTime := none }

/-- The kubeconfig files that the variables of the environment lead to, outside of any cluster. -/
def KubeconfigFiles.ofVariables (env : Variables) (contents : LocalPath → Option String) :
    KubeconfigFiles :=
  { contents
    listed := env "KUBECONFIG"
    standard :=
      ((env "HOME").filter (· != "")).map fun home => ⟨home ++ "/.kube/config"⟩
    proxy := proxyVariables.findSome? fun name => (env name).filter (· != "")
    ownCluster := none }

namespace MigrationSettings

/-- The kubeconfig files that a migration may have to read. -/
def kubeconfigs (settings : MigrationSettings) (files : KubeconfigFiles) : List LocalPath :=
  settings.source.access.kubeconfig.toList ++ settings.destination.access.kubeconfig.toList ++
    files.listedPaths ++ files.standard.toList

/-- How long the engine waits for what. -/
def pacing (settings : MigrationSettings) : Pacing :=
  { Pacing.standard with
    readinessLimit := settings.readinessLimit
    transferLimit := settings.transferLimit }

/-- The request to migrate between two volumes. -/
def request (settings : MigrationSettings) (source destination : VolumeLocator) : Request :=
  { source, destination
    options := settings.options
    strategies := settings.strategies
    rsyncImage := settings.rsyncImage
    sshdImage := settings.sshdImage }

end MigrationSettings

namespace Program

open Engine (Session log)

variable {σ : Type}

/-- Locates one end of a migration, and tells of a new connection. -/
def locate (files : KubeconfigFiles) (connector : Connector ClusterConnection)
    (settings : EndSettings) :
    Session σ (Except Failure (VolumeLocator × Connector ClusterConnection)) := do
  match connector.locate files.factory settings.access settings.ns settings.name with
  | .error failure => return .error failure
  | .ok (volume, after) =>
      if connector.size < after.size then log .info "Connected to cluster"
      return .ok (volume, after)

/-- Writes down where one end of a migration is. -/
def tellEnd (title : String) (volume : VolumeLocator) : Session σ Unit :=
  log .info (title ++ ": " ++ volume.text ++ " (" ++ volume.access.text ++ ")")

/-- The engine with the strategies of this library and the settings of the command line. -/
def engine (surroundings : Surroundings σ) (settings : MigrationSettings) : Engine :=
  { registry := .builtin
    pacing := settings.pacing
    publisher := .logging settings.verbose
    draws := surroundings.draws
    startedAt := surroundings.startedAt }

/-- The migration that the command line asks for: both ends are located, then an engine runs. -/
def migrate (surroundings : Surroundings σ) (settings : MigrationSettings) :
    Session σ (Except Failure MigrationReport) := do
  match ← locate surroundings.files .empty settings.source with
  | .error failure => return .error failure
  | .ok (source, connected) =>
      match ← locate surroundings.files connected settings.destination with
      | .error failure => return .error failure
      | .ok (destination, connector) => do
          tellEnd "Source" source
          tellEnd "Destination" destination
          (engine surroundings settings).run (clientEnvironment surroundings.transport)
            (settings.request source destination) connector.clusters

/-- Migrates, and tells how that ended. The answer is the exit code. -/
def migrateAndTell (surroundings : Surroundings σ) (settings : MigrationSettings) :
    Session σ Nat := do
  match ← migrate surroundings settings with
  | .ok report =>
      log .info
        ("Migration succeeded with " ++ report.strategy ++ " in " ++ Duration.text report.elapsed)
      return 0
  | .error failure =>
      log .error ("Migration failed: " ++ failure.message)
      return 1

/-- Whether a record is severe enough to be shown. -/
def shows (settings : LogSettings) (entry : LogRecord) : Bool :=
  settings.level.rank ≤ entry.level.rank

/-- Does what an invocation asks for: the exit code, and the log that is shown. -/
def run (surroundings : Surroundings σ) (state : σ) : Invocation → Nat × List LogRecord
  | .usageError => (2, [])
  | .display _ => (0, [])
  | .migrate settings migration =>
      let (code, world) := (migrateAndTell surroundings migration).run (World.start state)
      (code, world.logRecords.filter (shows settings))

end Program

end VolumeMigration
