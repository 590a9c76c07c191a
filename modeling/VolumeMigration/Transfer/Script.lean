import VolumeMigration.Request
import VolumeMigration.Transfer.Layout
import VolumeMigration.Transfer.Pacing

/-!
# The script that copies

A transfer pod runs a shell script that starts rsync until it succeeds, a bounded number of times,
and ends with status 0 exactly when one start succeeded. `RsyncCommand.words` are the words of the
command as the script writes them; `RetryScript.text` is the script around it.
-/

namespace VolumeMigration

/-- Where rsync copies to. -/
inductive RsyncTarget where
  /-- The destination claim is mounted in the same pod. -/
  | mounted
  /-- A relay serves the destination claim on a host. -/
  | remote (host : String)
  deriving DecidableEq

/-- The destination as an operand of rsync. -/
def RsyncTarget.operand : RsyncTarget → String
  | .mounted => Layout.destinationPath ++ "/"
  | .remote host => "root@" ++ host ++ ":" ++ Layout.destinationPath ++ "/"

/-- A start of rsync. -/
structure RsyncCommand where
  deleteExtraneous : Bool
  target : RsyncTarget
  deriving DecidableEq

namespace RsyncCommand

/-- The command that connects to a relay. -/
def connectCommand : String :=
  "ssh -i " ++ Layout.keyDirectory ++ "/" ++ Layout.privateKeyFile ++ " -p " ++
    toString Layout.sshPort ++ " -o StrictHostKeyChecking=no" ++
    " -o UserKnownHostsFile=/dev/null -o ConnectTimeout=5"

/-- The options that choose the way of connecting. -/
def connection : RsyncTarget → List String
  | .mounted => []
  | .remote _ => ["-e", "\"" ++ connectCommand ++ "\""]

/-- The words of the command, quoted where the shell needs it. -/
def words (command : RsyncCommand) : List String :=
  ["rsync", "-azv", "--info=progress2"] ++
    (if command.deleteExtraneous then ["--delete"] else []) ++ connection command.target ++
    [Layout.sourcePath ++ "/", command.target.operand]

/-- The command in one line. -/
def line (command : RsyncCommand) : String :=
  String.intercalate " " command.words

end RsyncCommand

/-- A script that starts a command until it succeeds. -/
structure RetryScript where
  command : RsyncCommand
  /-- How often the command is started at most. -/
  retries : Nat
  /-- The seconds to wait after a start that failed. -/
  delay : Nat
  deriving DecidableEq

namespace RetryScript

/-- The lines of the script: the command is started until it succeeds or was started often enough.
-/
def lines (script : RetryScript) : List String :=
  let delay := toString script.delay
  ["n=0",
    "rc=1",
    "retries=" ++ toString script.retries,
    "until [ \"$n\" -ge \"$retries\" ]; do",
    "  " ++ script.command.line ++ " && rc=0 && break",
    "  n=$((n+1))",
    "  echo \"rsync attempt $n/$retries failed, waiting " ++ delay ++ " seconds before retry\"",
    "  sleep " ++ delay,
    "done",
    "exit $rc"]

/-- The text of the script, in which every line is ended. -/
def text (script : RetryScript) : String :=
  String.join (script.lines.map (· ++ "\n"))

end RetryScript

/-- The script that copies to a target: at least one start, and whole seconds after
every one that failed. -/
def transferScript (options : TransferOptions) (pacing : Pacing) (target : RsyncTarget) :
    RetryScript :=
  { command := { deleteExtraneous := options.deleteExtraneous, target }
    retries := max pacing.retries 1
    delay := pacing.retryDelay.wholeSeconds }

end VolumeMigration
