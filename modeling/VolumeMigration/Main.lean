import VolumeMigration.CommandLine.Program

/-!
# The executable

Reads the arguments, the environment and the kubeconfig files, draws what attempts need at random,
and shows the log of the run. No transport to API servers is built in: to this executable every
cluster is unreachable.
-/

namespace VolumeMigration

namespace Program

/-- How the program is used. -/
def usage : String :=
  String.intercalate "\n"
    ["Migrate data from one Kubernetes PersistentVolumeClaim to another",
      "",
      "Usage: pv-migrate [OPTIONS] migrate [OPTIONS] <SOURCE> <DEST>",
      "",
      "Options:",
      "      --log-level <LEVEL>                   trace, debug, info, warn or error",
      "      --log-json                            Output logs as JSON",
      "  -k, --source-kubeconfig <FILE>            Kubeconfig file of the source claim",
      "  -c, --source-context <CONTEXT>            Context of the source claim",
      "  -n, --source-namespace <NAMESPACE>        Namespace of the source claim",
      "  -K, --dest-kubeconfig <FILE>              Kubeconfig file of the destination claim",
      "  -C, --dest-context <CONTEXT>              Context of the destination claim",
      "  -N, --dest-namespace <NAMESPACE>          Namespace of the destination claim",
      "  -d, --dest-delete-extraneous-files        Delete extraneous files on the destination",
      "  -i, --ignore-mounted                      Do not fail if a claim is mounted",
      "  -s, --override-strategies <STRATEGIES>    Strategies to try, between commas",
      "  -r, --rsync-image <IMAGE>                 Image to use for running rsync",
      "  -S, --sshd-image <IMAGE>                  Image to use for running sshd",
      "      --readiness-timeout-seconds <NUMBER>  How long a pod may take to become ready",
      "      --transfer-timeout-minutes <NUMBER>   How long the transfer may run",
      "  -v, --verbose                             Report every strategy evaluation",
      "  -h, --help                                Print help",
      "  -V, --version                             Print version"]

/-- What a notice shows. -/
def noticeText : Notice → String
  | .help => usage
  | .version => "pv-migrate 0.1.0"

/-- A line of the log as it is shown. -/
def shownRecord (settings : LogSettings) (entry : LogRecord) : String :=
  if settings.json then
    (Json.object [("level", .string entry.level.name),
      ("fields", .object [("message", .string entry.message)]),
      ("target", .string "pv_migrate")]).compact
  else entry.level.name ++ " pv_migrate: " ++ entry.message

/-- The values of the variables that the program looks at. -/
def readVariables : IO Variables := do
  let known ← variableNames.filterMapM fun name => do
    let value ← IO.getEnv name
    return value.map fun text => (name, text)
  return fun name => known.lookup name

/-- The text of a file, if it can be read. -/
def readFile? (path : LocalPath) : IO (Option (LocalPath × String)) := do
  try
    let text ← IO.FS.readFile path.text
    return some (path, text)
  catch _ => return none

/-- The kubeconfig files that a migration may have to read, and the files that those refer to, with
their texts. -/
def readFiles (env : Variables) (settings : MigrationSettings) : IO KubeconfigFiles := do
  let files := KubeconfigFiles.ofVariables env fun _ => none
  let known ← (settings.kubeconfigs files).filterMapM readFile?
  let referred := known.flatMap fun file =>
    match KubeconfigFiles.parse file.1 file.2 with
    | .ok config => config.localFiles
    | .error _ => []
  let further ← referred.filterMapM readFile?
  return { files with contents := fun path => (known ++ further).lookup path }

/-- Eight hexadecimal digits for four bytes. -/
def idOfBytes (bytes : List UInt8) : String :=
  String.ofList (bytes.flatMap fun byte =>
    [byte.toNat / 16, byte.toNat % 16].flatMap fun digit => Nat.toDigits 16 digit)

/-- Draws what one attempt needs. -/
def drawAttempt : IO AttemptDraw := do
  let seed ← IO.getRandomBytes 32
  let check ← IO.getRandomBytes 4
  let id ← IO.getRandomBytes 4
  let checkNumber := check.toList.foldl (fun value byte => value * 256 + byte.toNat) 0
  return {
    attemptId := idOfBytes id.toList
    keyPair := .ofSeed seed.toList (UInt32.ofNat checkNumber) }

/-- Draws what every attempt of a run needs: no strategy is tried twice. -/
def drawAttempts : IO (Nat → AttemptDraw) := do
  let first ← drawAttempt
  let others ← (List.range StrategyRegistry.builtin.size).mapM fun _ => drawAttempt
  return fun position => others.getD position first

/-- Does what an invocation asks for. -/
def execute (env : Variables) : Invocation → IO UInt32
  | .usageError => do
      IO.eprintln "error: the arguments are not valid\n"
      IO.eprintln usage
      return 2
  | .display notice => do
      IO.println (noticeText notice)
      return 0
  | .migrate settings migration => do
      let surroundings : Surroundings Unit :=
        { files := ← readFiles env migration
          transport := fun _ => Transport.unreachable
          draws := ← drawAttempts
          startedAt := .epoch }
      let (code, entries) := run surroundings () (.migrate settings migration)
      for entry in entries do
        IO.println (shownRecord settings entry)
      return code.toUInt32

end Program

end VolumeMigration

/-- Runs the program. -/
def main (arguments : List String) : IO UInt32 := do
  let env ← VolumeMigration.Program.readVariables
  VolumeMigration.Program.execute env
    (VolumeMigration.Invocation.ofArguments env arguments)
