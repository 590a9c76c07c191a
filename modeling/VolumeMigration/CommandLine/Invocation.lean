import VolumeMigration.CommandLine.Scan
import VolumeMigration.Event.Report
import VolumeMigration.Request
import VolumeMigration.Text.Blank
import VolumeMigration.Text.Split
import VolumeMigration.Transfer.Pacing

/-!
# Invocations of the program

The program has one command, `migrate` or `m` for short, with two operands: the names of the source
and the destination claim. `Invocation.ofArguments` reads the arguments of the program. Where an
option is not given, a variable of the environment may stand in for it, and otherwise a default.
The options of the log can be given before and after the name of the command; there the latter
counts.
-/

namespace VolumeMigration

/-- The environment variables, by their names. -/
abbrev Variables := String → Option String

/-- The variables that may name a proxy; the first one that is not empty counts. -/
def proxyVariables : List String := ["HTTP_PROXY", "http_proxy", "HTTPS_PROXY", "https_proxy"]

/-- The names of the variables that the program looks at. -/
def variableNames : List String :=
  ["HOME", "KUBECONFIG", "LOG_LEVEL", "LOG_JSON", "READINESS_TIMEOUT_SECONDS",
    "TRANSFER_TIMEOUT_MINUTES"] ++ proxyVariables

/-- The options of the program. -/
inductive Setting where
  | help
  | version
  | logLevel
  | logJson
  | sourceKubeconfig
  | sourceContext
  | sourceNamespace
  | destinationKubeconfig
  | destinationContext
  | destinationNamespace
  | deleteExtraneous
  | ignoreMounted
  | strategies
  | rsyncImage
  | sshdImage
  | readinessSeconds
  | verbose
  | transferMinutes
  deriving DecidableEq

namespace Setting

/-- The number that a text denotes: decimal digits, perhaps after a plus sign, below 2^64. -/
def number? (text : String) : Option Nat :=
  let digits :=
    match text.toList with
    | '+' :: digits => digits
    | digits => digits
  if digits.isEmpty || !digits.all Char.isDigit then none
  else
    let value := digits.foldl (fun value digit => value * 10 + (digit.toNat - '0'.toNat)) 0
    if value < UInt64.size then some value else none

/-- An option with a value that can be any text. -/
def anyText : OptionForm := .single fun _ => true

/-- An option with the path of a file as its value. -/
def path : OptionForm := .single fun text => text != ""

/-- An option with a number as its value. -/
def number : OptionForm := .single fun text => (number? text).isSome

/-- The options of the program and of all its commands. -/
def shared : List (OptionSpec Setting) :=
  [⟨.help, "help", some 'h', .display .help⟩,
    ⟨.logLevel, "log-level", none, anyText⟩,
    ⟨.logJson, "log-json", none, .switch⟩]

/-- The options before the name of a command. -/
def general : List (OptionSpec Setting) :=
  ⟨.version, "version", some 'V', .display .version⟩ :: shared

/-- The options of the command that migrates. -/
def migration : List (OptionSpec Setting) :=
  shared ++
    [⟨.sourceKubeconfig, "source-kubeconfig", some 'k', path⟩,
      ⟨.sourceContext, "source-context", some 'c', anyText⟩,
      ⟨.sourceNamespace, "source-namespace", some 'n', anyText⟩,
      ⟨.destinationKubeconfig, "dest-kubeconfig", some 'K', path⟩,
      ⟨.destinationContext, "dest-context", some 'C', anyText⟩,
      ⟨.destinationNamespace, "dest-namespace", some 'N', anyText⟩,
      ⟨.deleteExtraneous, "dest-delete-extraneous-files", some 'd', .switch⟩,
      ⟨.ignoreMounted, "ignore-mounted", some 'i', .switch⟩,
      ⟨.strategies, "override-strategies", some 's', .repeatable⟩,
      ⟨.rsyncImage, "rsync-image", some 'r', anyText⟩,
      ⟨.sshdImage, "sshd-image", some 'S', anyText⟩,
      ⟨.readinessSeconds, "readiness-timeout-seconds", none, number⟩,
      ⟨.verbose, "verbose", some 'v', .switch⟩,
      ⟨.transferMinutes, "transfer-timeout-minutes", none, number⟩]

end Setting

/-- What the log shows, and how. -/
structure LogSettings where
  /-- The least important level that is shown. -/
  level : LogLevel
  /-- Whether each record is a JSON object. -/
  json : Bool
  deriving DecidableEq

/-- One end of a migration, as it is given. -/
structure EndSettings where
  access : ClusterAccess
  ns : Option String
  name : String
  deriving DecidableEq

/-- A migration, as it is given. -/
structure MigrationSettings where
  source : EndSettings
  destination : EndSettings
  options : TransferOptions
  strategies : List String
  rsyncImage : String
  sshdImage : String
  readinessLimit : Duration
  transferLimit : Duration
  /-- Whether the log tells of every evaluation of a strategy. -/
  verbose : Bool
  deriving DecidableEq

/-- What the arguments of the program ask for. -/
inductive Invocation where
  | usageError
  | display (notice : Notice)
  | migrate (log : LogSettings) (settings : MigrationSettings)
  deriving DecidableEq

/-- The level with a name, in letters of either case; `info` if there is none. -/
def LogLevel.ofName (name : String) : LogLevel :=
  match String.ofList (name.toList.map Char.toLower) with
  | "trace" => .trace
  | "debug" => .debug
  | "warn" => .warn
  | "error" => .error
  | _ => .info

/-- The strategies in some lists: names between commas, without blanks around them. -/
def strategyNames (lists : List String) : List String :=
  ((lists.flatMap (Text.split ',')).map Text.trimBlanks).filter (· != "")

namespace Invocation

/-- The value of a variable that must be valid where it is set. -/
def ofVariable {α : Type} (env : Variables) (name : String) (value? : String → Option α) :
    Except Stop (Option α) :=
  match env name with
  | none => .ok none
  | some text =>
      match value? text with
      | some value => .ok (some value)
      | none => .error .usageError

/-- A number that an option gives, or a variable if it does not, or a default. -/
def numberOf (scan : Scan Setting) (id : Setting) (env : Variables) (name : String)
    (default : Nat) : Except Stop Nat :=
  match (scan.value? id).bind Setting.number? with
  | some value => .ok value
  | none => (ofVariable env name Setting.number?).map (·.getD default)

/-- The flag that a value spells. -/
def flag? : String → Option Bool
  | "true" => some true
  | "false" => some false
  | _ => none

/-- Whether the log is in JSON: as an option says, given before or after the name of the command, or
else a variable. Where one of the two is not given the variable must be valid. -/
def logJson (outer inner : Scan Setting) (env : Variables) : Except Stop Bool :=
  if outer.has .logJson && inner.has .logJson then .ok true
  else do
    let fallback ← ofVariable env "LOG_JSON" flag?
    return outer.has .logJson || inner.has .logJson || fallback.getD false

/-- What the log shows: the options after the name of the command count before those in front of
it. -/
def logSettings (outer inner : Scan Setting) (env : Variables) :
    Except Stop LogSettings := do
  let level := ((inner.value? .logLevel).or (outer.value? .logLevel)).or (env "LOG_LEVEL")
  return { level := (level.map LogLevel.ofName).getD .info
           json := ← logJson outer inner env }

/-- The migration that the options and operands of its command give. -/
def migrationSettings (scan : Scan Setting) (env : Variables) :
    Except Stop MigrationSettings := do
  match scan.operands with
  | [source, destination] =>
      let readiness ←
        numberOf scan .readinessSeconds env "READINESS_TIMEOUT_SECONDS" 300
      let transfer ← numberOf scan .transferMinutes env "TRANSFER_TIMEOUT_MINUTES" 1440
      return {
        source :=
          { access := .ofTexts (scan.value? .sourceKubeconfig) (scan.value? .sourceContext)
            ns := scan.value? .sourceNamespace
            name := source }
        destination :=
          { access :=
              .ofTexts (scan.value? .destinationKubeconfig) (scan.value? .destinationContext)
            ns := scan.value? .destinationNamespace
            name := destination }
        options :=
          { deleteExtraneous := scan.has .deleteExtraneous
            ignoreMounted := scan.has .ignoreMounted }
        strategies := strategyNames (scan.values .strategies)
        rsyncImage := (scan.value? .rsyncImage).getD defaultRsyncImage
        sshdImage := (scan.value? .sshdImage).getD defaultSshdImage
        readinessLimit := Duration.ofSeconds readiness
        transferLimit := Duration.ofSeconds (transfer * 60)
        verbose := scan.has .verbose }
  | _ => .error .usageError

/-- Whether a text is the name of the command that migrates. -/
def isMigrate (name : String) : Bool :=
  name == "migrate" || name == "m"

/-- What asking for help leads to: at most one command can be asked about. -/
def help : List String → Stop
  | [] => .display .help
  | [name] => if isMigrate name || name == "help" then .display .help else .usageError
  | _ => .usageError

/-- Reads the arguments behind the name of the command that migrates. -/
def readMigrate (outer : Scan Setting) (env : Variables) (arguments : List String) :
    Except Stop Invocation := do
  let inner ← Scan.start.readAll Setting.migration 2 arguments
  let settings ← migrationSettings inner env
  let settled ← outer.settle
  let log ← logSettings settled inner env
  return .migrate log settings

/-- Reads arguments up to the name of a command, and then those of the command. -/
def read (env : Variables) : List String → Scan Setting → Except Stop Invocation
  | [], _ => .error .usageError
  | argument :: rest, scan => do
      match ← scan.step Setting.general argument with
      | .going after => read env rest after
      | .operand name =>
          if scan.literal then .error .usageError
          else if isMigrate name then readMigrate scan env rest
          else if name = "help" then .error (help rest)
          else .error .usageError

/-- What the arguments of the program ask for. -/
def ofArguments (env : Variables) (arguments : List String) : Invocation :=
  match read env arguments Scan.start with
  | .ok invocation => invocation
  | .error (.display notice) => .display notice
  | .error .usageError => .usageError

end Invocation

end VolumeMigration
