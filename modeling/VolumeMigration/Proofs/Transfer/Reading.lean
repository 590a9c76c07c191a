import VolumeMigration.Proofs.Shell.Syntax
import VolumeMigration.Transfer.Script

/-!
# The script that copies as the shell reads it

`RetryScript.program` is the command that the shell reads in the text of a script
(`RetryScript.parse?_text`). The text is read line by line; the number of attempts, the wait and the
host stand in it as characters that are not special to the shell.
-/

namespace VolumeMigration

open Shell

/-! ## The command -/

/-- Nothing in the name of the host is special to the shell. -/
def RsyncTarget.IsPlain : RsyncTarget → Prop
  | .mounted => True
  | .remote host => ∀ char ∈ host.toList, char ∉ metacharacters

/-- The operand is read as it stands, if the host has no special characters. -/
theorem RsyncTarget.isPlain_operand {target : RsyncTarget} (plain : target.IsPlain) :
    Argument.IsPlain ⟨false, target.operand⟩ := by
  cases target with
  | mounted =>
      constructor
      · exact unspecial_of_all (by decide +kernel)
      · decide +kernel
  | remote host =>
      have operand_eq : (RsyncTarget.remote host).operand.toList =
          "root@".toList ++ host.toList ++ ":/dest/".toList := by
        simp [RsyncTarget.operand, Layout.destinationPath]
      constructor
      · rw [operand_eq]
        simp only [List.forall_mem_append]
        have front := @unspecial_of_all false "root@".toList (by decide +kernel)
        have behind := @unspecial_of_all false ":/dest/".toList (by decide +kernel)
        exact ⟨⟨front, plain⟩, behind⟩
      · simp [operand_eq]

namespace RsyncCommand

/-- The words before the operand that rsync is started with. -/
def optionArguments (command : RsyncCommand) : List Argument :=
  [⟨false, "rsync"⟩, ⟨false, "-azv"⟩, ⟨false, "--info=progress2"⟩] ++
    (if command.deleteExtraneous then [⟨false, "--delete"⟩] else []) ++
    (match command.target with
      | .mounted => []
      | .remote _ => [⟨false, "-e"⟩, ⟨true, connectCommand⟩]) ++
    [⟨false, Layout.sourcePath ++ "/"⟩]

/-- The words that rsync is started with, and whether they stand in quotes. -/
def quotedArguments (command : RsyncCommand) : List Argument :=
  command.optionArguments ++ [⟨false, command.target.operand⟩]

/-- The words that rsync is started with. -/
def arguments (command : RsyncCommand) : List String :=
  command.quotedArguments.map Argument.text

theorem words_eq (command : RsyncCommand) :
    command.words = command.quotedArguments.map Argument.written := by
  rcases command with ⟨deleteExtraneous, target⟩
  cases deleteExtraneous <;> cases target <;> rfl

/-- All words of the command are read as they stand. -/
theorem isPlain_of_mem {command : RsyncCommand} (plain : command.target.IsPlain) :
    ∀ argument ∈ command.quotedArguments, argument.IsPlain := by
  let literals : List Argument := [⟨false, "rsync"⟩, ⟨false, "-azv"⟩, ⟨false, "--info=progress2"⟩,
    ⟨false, "--delete"⟩, ⟨false, "-e"⟩, ⟨true, connectCommand⟩, ⟨false, "/source/"⟩]
  have unspecial : literals.all (fun argument => argument.text.toList.all fun char =>
      !(specials argument.quoted).contains char) = true := by decide +kernel
  have begun : literals.all (fun argument => argument.quoted ||
      !([none, some '#', some '~'].contains argument.text.toList.head?)) = true := by
    decide +kernel
  have listed : ∀ argument ∈ command.optionArguments, argument ∈ literals := by
    rcases command with ⟨deleteExtraneous, target⟩
    have source_eq : Layout.sourcePath ++ "/" = "/source/" := by decide +kernel
    cases deleteExtraneous <;> cases target <;> simp [optionArguments, literals, source_eq]
  rw [quotedArguments, List.forall_mem_append, List.forall_mem_singleton]
  constructor
  · intro argument argument_mem
    have argument_listed := listed argument argument_mem
    constructor
    · exact unspecial_of_all (List.all_eq_true.mp unspecial argument argument_listed)
    · intro unquoted
      have startable := List.all_eq_true.mp begun argument argument_listed
      simpa [unquoted] using startable
  · exact RsyncTarget.isPlain_operand plain

/-- Extraneous files are deleted exactly if that was asked for. -/
theorem mem_arguments_iff (command : RsyncCommand) :
    "--delete" ∈ command.arguments ↔ command.deleteExtraneous = true := by
  have source_ne : "--delete" ≠ Layout.sourcePath ++ "/" := by decide +kernel
  have connect_ne : "--delete" ≠ connectCommand := by decide +kernel
  have operand_ne : "--delete" ≠ command.target.operand := by
    intro same
    have first_eq := congrArg (fun text => text.toList.head?) same
    cases target : command.target with
    | mounted => simp [target, RsyncTarget.operand, Layout.destinationPath] at first_eq
    | remote host => simp [target, RsyncTarget.operand] at first_eq
  rcases command with ⟨deleteExtraneous, target⟩
  cases deleteExtraneous <;> cases target <;>
    simp_all [arguments, quotedArguments, optionArguments]

theorem toList_line (command : RsyncCommand) :
    command.line.toList ++ [' '] =
      command.quotedArguments.flatMap fun argument => argument.written.toList ++ [' '] := by
  have filled : command.words.map String.toList ≠ [] := by
    simp [words_eq, quotedArguments]
  have joined := @Text.intercalate_append_separator ' ' _ filled
  have line_eq : command.line.toList = [' '].intercalate (command.words.map String.toList) := by
    simp [line, String.toList_intercalate]
  rw [line_eq, joined, words_eq]
  simp [List.flatMap_map]

end RsyncCommand

/-! ## The program -/

namespace RetryScript

variable (script : RetryScript)

/-- The condition that ends the loop. -/
def test : Command :=
  .run [letters false ['['], [.parameter true "n"], letters false "-ge".toList,
    [.parameter true "retries"], letters false "]".toList]

/-- The start of the command. -/
def start : Command :=
  .run (script.command.quotedArguments.map Argument.word)

/-- What is told after a start that failed. -/
def message : Shell.Word :=
  letters true "rsync attempt ".toList ++ [.parameter true "n"] ++ letters true "/".toList ++
    [.parameter true "retries"] ++ letters true " failed, waiting ".toList ++
    letters true (toString script.delay).toList ++ letters true " seconds before retry".toList

/-- What is done after a start that failed. -/
def notice : Command :=
  .sequence (.assign "n" [.sum false [.parameter "n", .number 1]])
    (.sequence (.run [letters false "echo".toList, script.message])
      (.run [letters false "sleep".toList, letters false (toString script.delay).toList]))

/-- What is done in each round of the loop. -/
def body : Command :=
  .sequence
    (.both (.both script.start (.assign "rc" (letters false ['0'])))
      (.run [letters false "break".toList]))
    script.notice

/-- The script as the shell reads it. -/
def program : Command :=
  .sequence (.assign "n" (letters false ['0']))
    (.sequence (.assign "rc" (letters false ['1']))
      (.sequence (.assign "retries" (letters false (toString script.retries).toList))
        (.sequence (.loop test script.body)
          (.run [letters false "exit".toList, [.parameter false "rc"]]))))

/-! ## Reading -/

theorem toList_startLine (command : RsyncCommand) :
    ("  " ++ command.line ++ " && rc=0 && break").toList ++ ['\n'] =
      "  ".toList ++ (command.line.toList ++ [' ']) ++ "&& rc=0 && break\n".toList := by
  have behind : " && rc=0 && break".toList ++ ['\n'] =
      [' '] ++ "&& rc=0 && break\n".toList := by decide +kernel
  rw [String.toList_append, String.toList_append, List.append_assoc, behind]
  simp only [List.append_assoc]

/-- The line that starts the command. -/
theorem scan_startLine {command : RsyncCommand} (plain : command.target.IsPlain) :
    scan .between (("  " ++ command.line ++ " && rc=0 && break").toList ++ ['\n']) =
      some (command.quotedArguments.map (fun argument => .word argument.word) ++
        [.conjunction, .word (letters false "rc=0".toList), .conjunction,
          .word (letters false "break".toList), .separator], .between) := by
  have indented : scan .between "  ".toList = some ([], .between) := rfl
  have behind : scan .between "&& rc=0 && break\n".toList =
      some ([.conjunction, .word (letters false "rc=0".toList), .conjunction,
        .word (letters false "break".toList), .separator], .between) := by
    decide +kernel
  have words := scan_arguments (RsyncCommand.isPlain_of_mem plain)
  rw [toList_startLine, RsyncCommand.toList_line]
  exact scan_append (scan_append indented words) behind

/-- The tokens of the script, line by line. -/
def tokenLines : List (List Token) :=
  [[.word (letters false "n=0".toList), .separator],
    [.word (letters false "rc=1".toList), .separator],
    [.word (letters false ("retries=".toList ++ (toString script.retries).toList)), .separator],
    [.word (letters false "until".toList), .word (letters false ['[']),
      .word [.parameter true "n"], .word (letters false "-ge".toList),
      .word [.parameter true "retries"], .word (letters false "]".toList), .separator,
      .word (letters false "do".toList), .separator],
    script.command.quotedArguments.map (fun argument => .word argument.word) ++
      [.conjunction, .word (letters false "rc=0".toList), .conjunction,
        .word (letters false "break".toList), .separator],
    [.word (letters false "n=".toList ++ [.sum false [.parameter "n", .number 1]]), .separator],
    [.word (letters false "echo".toList), .word script.message, .separator],
    [.word (letters false "sleep".toList), .word (letters false (toString script.delay).toList),
      .separator],
    [.word (letters false "done".toList), .separator],
    [.word (letters false "exit".toList), .word [.parameter false "rc"], .separator]]

theorem scan_retries : scan .between (("retries=" ++ toString script.retries).toList ++ ['\n']) =
    some ([.word (letters false ("retries=".toList ++ (toString script.retries).toList)),
      .separator], .between) := by
  have begun : scan .between "retries=".toList =
      some ([], .inWord false (letters false "retries=".toList)) := by decide +kernel
  have digits := scan_letters (toString_unspecial false script.retries)
    (letters false "retries=".toList)
  have joined : letters false "retries=".toList ++ letters false (toString script.retries).toList =
      letters false ("retries=".toList ++ (toString script.retries).toList) := by
    simp [letters]
  rw [joined] at digits
  rw [String.toList_append]
  exact scan_append (scan_append begun digits) rfl

theorem scan_message :
    scan .between (("  echo \"rsync attempt $n/$retries failed, waiting " ++
        toString script.delay ++ " seconds before retry\"").toList ++ ['\n']) =
      some ([.word (letters false "echo".toList), .word script.message, .separator],
        .between) := by
  have begun : scan .between "  echo \"rsync attempt $n/$retries failed, waiting ".toList =
      some ([.word (letters false "echo".toList)],
        .inWord true (letters true "rsync attempt ".toList ++ [.parameter true "n"] ++
          letters true "/".toList ++ [.parameter true "retries"] ++
          letters true " failed, waiting ".toList)) := by decide +kernel
  have digits := scan_append begun (scan_letters (toString_unspecial true script.delay) _)
  have unspecial := @unspecial_of_all true " seconds before retry".toList (by decide +kernel)
  have told := scan_append digits (scan_letters unspecial _)
  have closing : " seconds before retry\"".toList ++ ['\n'] =
      " seconds before retry".toList ++ ['"', '\n'] := by decide +kernel
  rw [String.toList_append, String.toList_append, List.append_assoc, closing, ← List.append_assoc]
  exact scan_append told rfl

theorem scan_sleep : scan .between (("  sleep " ++ toString script.delay).toList ++ ['\n']) =
    some ([.word (letters false "sleep".toList),
      .word (letters false (toString script.delay).toList), .separator], .between) := by
  have begun : scan .between "  sleep ".toList =
      some ([.word (letters false "sleep".toList)], .between) := by decide +kernel
  have plain := isPlain_toString script.delay
  rw [String.toList_append]
  exact scan_append (scan_append begun (scan_written plain)) rfl

/-- Every line of the script is read to its end. -/
theorem scan_tokenLines (plain : script.command.target.IsPlain) :
    List.Forall₂ (fun line tokens =>
      scan .between (String.toList line ++ ['\n']) = some (tokens, .between))
      script.lines script.tokenLines := by
  refine .cons ?_ (.cons ?_ (.cons script.scan_retries (.cons ?_
    (.cons (scan_startLine plain) (.cons ?_ (.cons script.scan_message
      (.cons script.scan_sleep (.cons ?_ (.cons ?_ .nil)))))))))
  all_goals decide +kernel

/-- The tokens of a script are those of its lines. -/
theorem tokens?_text (plain : script.command.target.IsPlain) :
    tokens? script.text = some script.tokenLines.flatten := by
  have read := scan_lines (scan_tokenLines script plain)
  rw [tokens?, text, read]
  rfl

/-- The shell reads the text of a script as its program. -/
theorem parse?_text (plain : script.command.target.IsPlain) :
    parse? script.text = some script.program := by
  rw [parse?, tokens?_text script plain]
  -- The numbers and the host stand in words that the parser does not look into.
  rcases script with ⟨⟨deleteExtraneous, target⟩, retries, delay⟩
  cases deleteExtraneous
  · cases target
    · rfl
    · rfl
  · cases target
    · rfl
    · rfl

end RetryScript

end VolumeMigration
