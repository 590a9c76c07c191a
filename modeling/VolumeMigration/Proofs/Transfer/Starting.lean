import VolumeMigration.Proofs.Shell.Semantics
import VolumeMigration.Proofs.Transfer.Operand
import VolumeMigration.Proofs.Transfer.Reading

/-!
# What a script starts rsync with

`RemoteCopy.ofScript?` reads a script as the shell does, and takes the words of its only start of
rsync apart as rsync and ssh do: the options with their values, and the two operands.
`RemoteCopy.StartedBy` relates a copy to a script that starts it. Whatever the host is, the script
writes the words of the start out in one line; where the host has no characters with a meaning of
their own, the copy is read back from the script (`RsyncCommand.startedBy_transferScript`).
-/

namespace VolumeMigration

/-! ## Starts -/

namespace Shell

/-- Whether a part of a word stands for itself. -/
def Piece.isLetter : Piece → Bool
  | .letter _ _ => true
  | _ => false

/-- The text of a word in which nothing is replaced. -/
def literal? (word : Word) : Option String :=
  if word.all Piece.isLetter then expand? (fun _ => "") word else none

namespace Command

/-- The words of the simple commands other than assignments, in the order of the text. -/
def runs : Command → List (List Word)
  | .assign _ _ => []
  | .run words => [words]
  | .both first second => first.runs ++ second.runs
  | .sequence first second => first.runs ++ second.runs
  | .loop condition body => condition.runs ++ body.runs

/-- The words behind the name of a program that a command starts in one place. -/
def arguments? (program : String) (command : Command) : Option (List String) :=
  match command.runs.filter (·.head? = some (letters false program.toList)) with
  | [words] => words.tail.mapM literal?
  | _ => none

end Command

/-- Plain arguments stand for their texts. -/
theorem literal?_arguments {arguments : List Argument}
    (plain : ∀ argument ∈ arguments, argument.IsPlain) :
    (arguments.map Argument.word).mapM literal? = some (arguments.map Argument.text) := by
  induction arguments with
  | nil => rfl
  | cons argument arguments ih =>
      rw [List.forall_mem_cons] at plain
      have all_letters : argument.word.all Piece.isLetter = true := by
        simp [Argument.word, letters, Piece.isLetter]
      have expanded := @expand?_letters (fun _ => "") _ _ plain.1.unspecial
      have first : literal? argument.word = some argument.text := by
        rw [literal?, if_pos all_letters]
        exact expanded
      simp [first, ih plain.2]

end Shell

/-- What a start of rsync over ssh is given. -/
structure RemoteCopy where
  /-- The file of the private key. -/
  identity : String
  port : Nat
  sourcePath : String
  /-- The user to connect as. -/
  user : String
  host : String
  destinationPath : String
  deriving DecidableEq

namespace RemoteCopy

/-! ## Reading -/

/-- The value behind an option. -/
def optionValue? (option : String) : List String → Option String
  | first :: value :: rest =>
      if first = option then some value else optionValue? option (value :: rest)
  | _ => none

/-- The words that are neither options nor, behind `-e`, the value of one. -/
def operands (valued : Bool) : List String → List String
  | [] => []
  | word :: rest =>
      if valued then operands false rest
      else if word.toList.head? = some '-' then operands (word = "-e") rest
      else word :: operands false rest

/-- The directory whose contents are named by a path with a slash at its end. -/
def directory? (path : String) : Option String :=
  if path.toList.getLast? = some '/' then some (.ofList path.toList.dropLast) else none

/-- The file of the key and the port that a command connects with, which is cut at its blanks. -/
def connection? (command : String) : Option (String × Nat) :=
  match (RemotePlace.wordsOf command.toList).map String.ofList with
  | "ssh" :: settings => do
      let identity ← optionValue? "-i" settings
      let port ← optionValue? "-p" settings
      return (identity, ← Shell.number? port)
  | _ => none

/-- The copy that rsync makes when it is started with some words. -/
def ofArguments? (arguments : List String) : Option RemoteCopy := do
  let connect ← optionValue? "-e" arguments
  let (identity, port) ← connection? connect
  match operands false arguments with
  | [source, destination] =>
      let place ← RemotePlace.ofOperand? destination.toList
      return {
        identity
        port
        sourcePath := ← directory? source
        user := ← place.user
        host := place.host
        destinationPath := ← directory? place.path }
  | _ => none

/-- The copy that is made where a script starts rsync. -/
def ofScript? (script : String) : Option RemoteCopy := do
  let command ← Shell.parse? script
  let arguments ← command.arguments? "rsync"
  ofArguments? arguments

/-! ## Writing -/

/-- The options of rsync that do not say from where or to where it copies. -/
def plainOptions : List String :=
  ["-azv", "--info=progress2", "--delete"]

/-- The settings of ssh that do not say whom it connects to. -/
def plainSettings : List String :=
  ["StrictHostKeyChecking=no", "UserKnownHostsFile=/dev/null", "ConnectTimeout=5"]

/-- The command that connects, with some settings besides. -/
def connectCommand (copy : RemoteCopy) (settings : List String) : String :=
  "ssh -i " ++ copy.identity ++ " -p " ++ toString copy.port ++
    String.join (settings.map (" -o " ++ ·))

/-- The words of a start with some options and some settings of ssh. -/
def words (copy : RemoteCopy) (options settings : List String) : List String :=
  ["rsync"] ++ options ++
    ["-e", "\"" ++ copy.connectCommand settings ++ "\"", copy.sourcePath ++ "/",
      copy.user ++ "@" ++ copy.host ++ ":" ++ copy.destinationPath ++ "/"]

/-- A script starts a copy. -/
structure StartedBy (copy : RemoteCopy) (script : String) : Prop where
  /-- It writes the words of the start between the beginning of a line and a conjunction. -/
  written : ∃ options settings before after, options ⊆ plainOptions ∧ settings ⊆ plainSettings ∧
    script = before ++ "\n  " ++ String.intercalate " " (copy.words options settings) ++ " && " ++
      after
  /-- The copy is read back, unless the host has a colon or means something to the shell. -/
  read : (∀ char ∈ copy.host.toList, char ≠ ':' ∧ char ∉ Shell.metacharacters) →
    ofScript? script = some copy

end RemoteCopy

open RemoteCopy

/-- The copy to a relay on a host. -/
def RsyncCommand.remoteCopy (host : String) : RemoteCopy :=
  { identity := Layout.keyDirectory ++ "/" ++ Layout.privateKeyFile
    port := Layout.sshPort
    sourcePath := Layout.sourcePath
    user := "root"
    host
    destinationPath := Layout.destinationPath }

/-! ## The script -/

namespace RsyncCommand

/-- The options without a value that a start has. -/
def optionsOf (deleteExtraneous : Bool) : List String :=
  ["-azv", "--info=progress2"] ++ if deleteExtraneous then ["--delete"] else []

theorem optionsOf_subset (deleteExtraneous : Bool) :
    optionsOf deleteExtraneous ⊆ plainOptions := by
  cases deleteExtraneous <;> simp [optionsOf, plainOptions]

theorem connectCommand_eq :
    connectCommand = (remoteCopy "").connectCommand plainSettings := by
  decide

/-- The command that connects names the key and the port. -/
theorem connection?_connectCommand :
    connection? connectCommand =
      some (Layout.keyDirectory ++ "/" ++ Layout.privateKeyFile, Layout.sshPort) := by
  decide +kernel

/-- The words of a start that copies to a host are those of the copy. -/
theorem words_remote (deleteExtraneous : Bool) (host : String) :
    (toHost deleteExtraneous host).words =
      (remoteCopy host).words (optionsOf deleteExtraneous) plainSettings := by
  simp only [toHost, words, connection, connectCommand_eq]
  cases deleteExtraneous <;> rfl

/-- The words behind the name of rsync in a start that copies to a host. -/
theorem arguments_toHost (deleteExtraneous : Bool) (host : String) :
    (toHost deleteExtraneous host).arguments.tail = optionsOf deleteExtraneous ++
      ["-e", connectCommand, Layout.sourcePath ++ "/", (RsyncTarget.remote host).operand] := by
  cases deleteExtraneous <;> rfl

end RsyncCommand

/-- The command stands in a line of its own, in front of a conjunction. -/
theorem RetryScript.exists_text (script : RetryScript) :
    ∃ before after, script.text = before ++ "\n  " ++ script.command.line ++ " && " ++ after := by
  let opening := (script.lines.take 3).map (· ++ "\n")
  let closing := (script.lines.drop 5).map (· ++ "\n")
  have parts : script.lines.map (· ++ "\n") =
      opening ++ "until [ \"$n\" -ge \"$retries\" ]; do\n" ::
        ("  " ++ script.command.line ++ " && rc=0 && break" ++ "\n") :: closing :=
    rfl
  refine ⟨String.join opening ++ "until [ \"$n\" -ge \"$retries\" ]; do",
    "rc=0 && break\n" ++ String.join closing, ?_⟩
  have test_eq : "until [ \"$n\" -ge \"$retries\" ]; do\n" =
      "until [ \"$n\" -ge \"$retries\" ]; do" ++ "\n" := rfl
  have start_eq : " && rc=0 && break" ++ "\n" = " && " ++ "rc=0 && break\n" := rfl
  have indent_eq : "\n" ++ "  " = "\n  " := rfl
  rw [text, parts, String.join_append, String.join_cons, String.join_cons, test_eq, ← indent_eq]
  simp only [String.append_assoc, start_eq]

/-- The words of the only start of rsync in a script. -/
theorem RetryScript.arguments?_program {script : RetryScript}
    (plain : script.command.target.IsPlain) :
    script.program.arguments? "rsync" = some script.command.arguments.tail := by
  have found : script.program.runs.filter (·.head? = some (Shell.letters false "rsync".toList)) =
      [script.command.quotedArguments.map Shell.Argument.word] := rfl
  have read := Shell.literal?_arguments
    fun argument listed => RsyncCommand.isPlain_of_mem plain argument (List.mem_of_mem_tail listed)
  rw [Shell.Command.arguments?, found]
  simpa [RsyncCommand.arguments] using read

/-- The copy that a script makes is the one that its command makes. -/
theorem RetryScript.ofScript?_text {script : RetryScript} (plain : script.command.target.IsPlain) :
    ofScript? script.text = ofArguments? script.command.arguments.tail := by
  rw [ofScript?, parse?_text script plain]
  simp [arguments?_program plain]

/-- Options without values are passed over. -/
theorem RemoteCopy.read_options {options : List String} (plain : options ⊆ plainOptions)
    (connect : String) (rest : List String) :
    optionValue? "-e" (options ++ "-e" :: connect :: rest) = some connect ∧
      operands false (options ++ "-e" :: connect :: rest) = operands false rest := by
  induction options with
  | nil => simp [optionValue?, operands]
  | cons option options ih =>
      rw [List.cons_subset] at plain
      have dashed : ∀ option ∈ plainOptions,
          option ≠ "-e" ∧ option.toList.head? = some '-' := by decide
      rcases dashed option plain.1 with ⟨other, dash⟩
      have behind := ih plain.2
      constructor
      · cases options with
        | nil => simp [optionValue?, other]
        | cons next options => simpa [optionValue?, other] using behind.1
      · simp [operands, other, dash, behind.2]

/-- The words of a start that copies to a host say which copy it makes. -/
theorem RsyncCommand.ofArguments?_toHost (deleteExtraneous : Bool) {host : String}
    (plain : ∀ char ∈ host.toList, char ≠ ':' ∧ char ≠ '[') :
    ofArguments? (toHost deleteExtraneous host).arguments.tail = some (remoteCopy host) := by
  rcases read_options (optionsOf_subset deleteExtraneous) connectCommand
    [Layout.sourcePath ++ "/", (RsyncTarget.remote host).operand] with ⟨connect, rest⟩
  have operand_eq := RsyncTarget.toList_operand host
  have undashed : (RsyncTarget.remote host).operand.toList.head? ≠ some '-' := by
    simp [operand_eq]
  have named : operands false [Layout.sourcePath ++ "/", (RsyncTarget.remote host).operand] =
      [Layout.sourcePath ++ "/", (RsyncTarget.remote host).operand] := by
    simp [operands, undashed, Layout.sourcePath]
  have place : RemotePlace.ofOperand? (RsyncTarget.remote host).operand.toList =
      some ⟨some "root", host, "/dest/"⟩ := by
    rw [operand_eq, RemotePlace.ofOperand?_root plain]
    simp
  have source : directory? (Layout.sourcePath ++ "/") = some Layout.sourcePath := by decide +kernel
  have destination : directory? "/dest/" = some Layout.destinationPath := by decide +kernel
  rw [arguments_toHost, ofArguments?, connect, rest, named]
  simp [connection?_connectCommand, place, source, destination, remoteCopy]

/-- The script that copies to a host starts the copy to a relay there. -/
theorem RsyncCommand.startedBy_transferScript (options : TransferOptions) (pacing : Pacing)
    (host : String) :
    (remoteCopy host).StartedBy (transferScript options pacing (.remote host)).text := by
  constructor
  · rcases (transferScript options pacing (.remote host)).exists_text with ⟨before, after, text_eq⟩
    refine ⟨optionsOf options.deleteExtraneous, plainSettings, before, after, optionsOf_subset _,
      List.Subset.refl _, ?_⟩
    rw [text_eq, ← words_remote]
    rfl
  · intro plain
    have target_plain : (RsyncTarget.remote host).IsPlain := fun char listed =>
      (plain char listed).2
    have uncut : ∀ char ∈ host.toList, char ≠ ':' ∧ char ≠ '[' := by
      intro char listed
      refine ⟨(plain char listed).1, ?_⟩
      rintro rfl
      exact (plain '[' listed).2 (by decide)
    rw [RetryScript.ofScript?_text target_plain]
    exact ofArguments?_toHost options.deleteExtraneous uncut

end VolumeMigration
