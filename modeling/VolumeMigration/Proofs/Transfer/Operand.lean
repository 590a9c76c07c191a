import VolumeMigration.Proofs.Text.Split
import VolumeMigration.Transfer.Script

/-!
# How rsync reads where to copy to

An operand of rsync names a place as `user@host:path`. The colon that ends the host is the first one
outside square brackets, so a host with colons has to be put in brackets; `RemotePlace.ofOperand?`
is this rule, and `RemotePlace.ofScript?` applies it to the last word of the command in a script
that starts rsync. In the script that copies to a host this is the operand for that host
(`RemotePlace.ofScript?_transferScript`), which has no brackets.
-/

namespace VolumeMigration

/-- A directory on a host, and the user to reach it as. -/
structure RemotePlace where
  user : Option String
  host : String
  path : String
  deriving DecidableEq

namespace RemotePlace

/-- The parts before and behind the first colon outside square brackets. -/
def cutAtColon? (bracketed : Bool) : List Char → Option (List Char × List Char)
  | [] => none
  | char :: rest =>
      if char = ':' ∧ bracketed = false then some ([], rest)
      else
        (cutAtColon? (char = '[' || (bracketed && char ≠ ']')) rest).map fun (front, back) =>
          (char :: front, back)

/-- A host without the brackets around it. -/
def unbracketed : List Char → List Char
  | '[' :: rest => if rest.getLast? = some ']' then rest.dropLast else '[' :: rest
  | host => host

/-- The place that an operand names. -/
def ofOperand? (operand : List Char) : Option RemotePlace :=
  (cutAtColon? false operand).map fun (place, path) =>
    match place.dropWhile (· ≠ '@') with
    | [] =>
        { user := none
          host := .ofList (unbracketed place)
          path := .ofList path }
    | _ :: host =>
        { user := some (.ofList (place.takeWhile (· ≠ '@')))
          host := .ofList (unbracketed host)
          path := .ofList path }

/-- The words between the blanks of a line. -/
def wordsOf (line : List Char) : List (List Char) :=
  (line.splitOn ' ').filter (· ≠ [])

/-- The words of the first command in a line. -/
def commandOf (line : List Char) : List (List Char) :=
  (wordsOf line).takeWhile (· ≠ "&&".toList)

/-- The place that is the last word where a script starts rsync. -/
def ofScript? (script : String) : Option RemotePlace := do
  let command ← ((script.toList.splitOn '\n').map commandOf).find?
    (·.head? = some "rsync".toList)
  let operand ← command.getLast?
  ofOperand? operand

/-! ## Operands -/

/-- Outside brackets the search passes over what is neither a colon nor opens a bracket. -/
theorem cutAtColon?_append {front rest : List Char}
    (plain : ∀ char ∈ front, char ≠ ':' ∧ char ≠ '[') :
    cutAtColon? false (front ++ rest) =
      (cutAtColon? false rest).map fun (before, behind) => (front ++ before, behind) := by
  induction front with
  | nil => simp
  | cons char front ih =>
      rw [List.forall_mem_cons] at plain
      simp [cutAtColon?, plain.1, ih plain.2, Function.comp_def]

/-- Inside brackets it passes over everything. -/
theorem cutAtColon?_bracketed {host rest : List Char} (closed : ']' ∉ host) :
    cutAtColon? true (host ++ ']' :: rest) =
      (cutAtColon? false rest).map fun (before, behind) => (host ++ ']' :: before, behind) := by
  induction host with
  | nil => simp [cutAtColon?]
  | cons char host ih =>
      rw [List.mem_cons, not_or] at closed
      have other : char ≠ ']' := Ne.symm closed.1
      simp [cutAtColon?, other, ih closed.2, Function.comp_def]

theorem unbracketed_of_plain {host : List Char} (plain : ∀ char ∈ host, char ≠ '[') :
    unbracketed host = host := by
  cases host with
  | nil => rfl
  | cons char rest =>
      have other := plain char List.mem_cons_self
      simp [unbracketed, other]

/-- A host that is not in brackets is read up to its first colon. -/
theorem ofOperand?_root {front back : List Char}
    (plain : ∀ char ∈ front, char ≠ ':' ∧ char ≠ '[') :
    ofOperand? ("root@".toList ++ front ++ ':' :: back) =
      some ⟨some "root", .ofList front, .ofList back⟩ := by
  have host_plain := unbracketed_of_plain fun char char_mem => (plain char char_mem).2
  rw [ofOperand?, List.append_assoc, cutAtColon?_append (by simp), cutAtColon?_append plain]
  simp [cutAtColon?, host_plain]

/-- A host in brackets is read back whole. -/
theorem ofOperand?_bracketed {host path : List Char} (closed : ']' ∉ host) :
    ofOperand? ("root@".toList ++ '[' :: (host ++ ']' :: ':' :: path)) =
      some ⟨some "root", .ofList host, .ofList path⟩ := by
  have opened : cutAtColon? false ('[' :: (host ++ ']' :: ':' :: path)) =
      some ('[' :: (host ++ [']']), path) := by
    simp [cutAtColon?, cutAtColon?_bracketed closed]
  rw [ofOperand?, cutAtColon?_append (by simp), opened]
  simp [unbracketed]

example : ofOperand? "root@[fd00::1]:/dest/".toList = some ⟨some "root", "fd00::1", "/dest/"⟩ := by
  decide

/-! ## Words -/

/-- Words on both sides of a blank are read on their own. -/
theorem wordsOf_append (front back : List Char) :
    wordsOf (front ++ ' ' :: back) = wordsOf front ++ wordsOf back := by
  rw [wordsOf, List.splitOn_append_cons_self, List.filter_append]
  rfl

theorem wordsOf_of_not_mem {word : List Char} (blankless : ' ' ∉ word) (filled : word ≠ []) :
    wordsOf word = [word] := by
  rw [wordsOf, List.splitOn_eq_singleton blankless]
  simp [filled]

/-- The words of pieces that are joined by blanks are the words of the pieces. -/
theorem wordsOf_intercalate (pieces : List (List Char)) :
    wordsOf ([' '].intercalate pieces) = pieces.flatMap wordsOf := by
  induction pieces with
  | nil => rfl
  | cons piece rest ih =>
      cases rest with
      | nil => simp [List.intercalate_singleton]
      | cons next rest =>
          rw [List.intercalate_cons_cons, List.append_assoc, List.singleton_append,
            wordsOf_append, ih]
          rfl

end RemotePlace

/-! ## Scripts -/

theorem RsyncTarget.toList_operand (host : String) :
    (remote host).operand.toList = "root@".toList ++ host.toList ++ ':' :: "/dest/".toList := by
  simp [operand, Layout.destinationPath]

namespace RsyncCommand

/-- The command that copies to a relay on a host. -/
def toHost (deleteExtraneous : Bool) (host : String) : RsyncCommand :=
  { deleteExtraneous, target := .remote host }

/-- The words of such a command before its operand, which alone tells the host. -/
def wordsBefore (deleteExtraneous : Bool) : List String :=
  (toHost deleteExtraneous "").words.dropLast

/-- Of the words that copy to a host only the last one depends on it. -/
theorem words_toHost (deleteExtraneous : Bool) (host : String) :
    (toHost deleteExtraneous host).words =
      wordsBefore deleteExtraneous ++ [(RsyncTarget.remote host).operand] := by
  cases deleteExtraneous <;> rfl

end RsyncCommand

namespace RetryScript

/-- The line of a script that starts its command. -/
def startLine (command : RsyncCommand) : List Char :=
  ("  " ++ command.line ++ " && rc=0 && break").toList

/-- The lines before it. -/
def linesBefore (script : RetryScript) : List (List Char) :=
  (script.lines.take 4).map String.toList

/-- The text of a script begins with the lines up to the start of its command. -/
theorem exists_toList_text (script : RetryScript) :
    ∃ after, script.text.toList =
      (script.linesBefore ++ [startLine script.command]).flatMap (· ++ ['\n']) ++ after := by
  refine ⟨((script.lines.drop 5).map String.toList).flatMap (· ++ ['\n']), ?_⟩
  have lines_eq : script.lines.map String.toList = script.linesBefore ++
      [startLine script.command] ++ (script.lines.drop 5).map String.toList := rfl
  rw [← List.flatMap_append, ← lines_eq]
  simp [text, String.toList_join, List.flatMap_map]

/-- The line that starts rsync stays one line, if the host has no line break. -/
theorem startLine_unbroken (deleteExtraneous : Bool) {host : String}
    (unbroken : '\n' ∉ host.toList) :
    '\n' ∉ startLine (.toHost deleteExtraneous host) := by
  have words_unbroken : ∀ word ∈ (RsyncCommand.toHost deleteExtraneous host).words,
      '\n' ∉ word.toList := by
    rw [RsyncCommand.words_toHost, List.forall_mem_append]
    constructor
    · cases deleteExtraneous <;> decide +kernel
    · simp [RsyncTarget.toList_operand, unbroken]
  have line_unbroken : '\n' ∉ (RsyncCommand.toHost deleteExtraneous host).line.toList := by
    intro broken
    rw [RsyncCommand.line, String.toList_intercalate] at broken
    rcases Text.mem_intercalate broken with same | ⟨_, listed, broken⟩
    · exact absurd same (by decide)
    · rcases List.mem_map.mp listed with ⟨word, word_mem, rfl⟩
      exact words_unbroken word word_mem broken
  simp [startLine, line_unbroken]

end RetryScript

namespace RemotePlace

open RetryScript RsyncCommand

theorem wordsOf_wordsBefore (deleteExtraneous : Bool) :
    ∃ options, ((wordsBefore deleteExtraneous).map String.toList).flatMap wordsOf =
        "rsync".toList :: options ∧ ∀ word ∈ "rsync".toList :: options, word ≠ "&&".toList := by
  cases deleteExtraneous <;> exact ⟨_, rfl, by decide +kernel⟩

/-- The command that starts rsync begins with its name and ends with the operand. -/
theorem commandOf_startLine (deleteExtraneous : Bool) {host : String}
    (blankless : ' ' ∉ host.toList) :
    ∃ options, commandOf (startLine (toHost deleteExtraneous host)) =
      "rsync".toList :: options ++ [(RsyncTarget.remote host).operand.toList] := by
  rcases wordsOf_wordsBefore deleteExtraneous with ⟨options, start_eq, others⟩
  have operand_words : wordsOf (RsyncTarget.remote host).operand.toList =
      [(RsyncTarget.remote host).operand.toList] := by
    apply wordsOf_of_not_mem
    · simp [RsyncTarget.toList_operand, blankless]
    · simp [RsyncTarget.toList_operand]
  have line_eq : startLine (toHost deleteExtraneous host) = [] ++ ' ' :: ([] ++ ' ' ::
      ([' '].intercalate ((toHost deleteExtraneous host).words.map String.toList) ++
        ' ' :: "&& rc=0 && break".toList)) := by
    simp [startLine, RsyncCommand.line, String.toList_intercalate]
  have words_eq : wordsOf (startLine (toHost deleteExtraneous host)) =
      ("rsync".toList :: options ++ [(RsyncTarget.remote host).operand.toList]) ++
        wordsOf "&& rc=0 && break".toList := by
    rw [line_eq, wordsOf_append, wordsOf_append, wordsOf_append, wordsOf_intercalate,
      words_toHost, List.map_append, List.flatMap_append, start_eq, List.map_singleton,
      List.flatMap_singleton, operand_words]
    rfl
  have uncut : ∀ word ∈ "rsync".toList :: options ++ [(RsyncTarget.remote host).operand.toList],
      decide (word ≠ "&&".toList) = true := by
    intro word word_mem
    rcases List.mem_append.mp word_mem with earlier | last
    · exact decide_eq_true (others word earlier)
    · simp [List.mem_singleton.mp last, RsyncTarget.toList_operand]
  have closing : (wordsOf "&& rc=0 && break".toList).takeWhile (· ≠ "&&".toList) = [] := rfl
  refine ⟨options, ?_⟩
  rw [commandOf, words_eq, List.takeWhile_append_of_pos uncut, closing, List.append_nil]

/-- No line before the one that starts rsync starts it. -/
theorem linesBefore_plain (script : RetryScript) :
    ∀ line ∈ script.linesBefore,
      '\n' ∉ line ∧ (commandOf line).head? ≠ some "rsync".toList := by
  have digits_unbroken : '\n' ∉ Nat.toDigits 10 script.retries := Text.not_mem_toDigits rfl _
  have digits_blankless : ' ' ∉ Nat.toDigits 10 script.retries := Text.not_mem_toDigits rfl _
  let line := ("retries=" ++ toString script.retries).toList
  have command_eq : commandOf line = [line] := by
    rw [commandOf, wordsOf_of_not_mem (by simp [line, digits_blankless]) (by simp [line])]
    simp [line]
  have lines_eq : script.linesBefore = ["n=0".toList, "rc=1".toList, line,
      "until [ \"$n\" -ge \"$retries\" ]; do".toList] := rfl
  simp only [lines_eq, List.forall_mem_cons]
  refine ⟨by decide +kernel, by decide +kernel, ⟨?_, ?_⟩, by decide +kernel, by simp⟩
  · simp [line, digits_unbroken]
  · rw [command_eq]
    simp [line]

/-- The place that a script copies to is the one that its operand names. -/
theorem ofScript?_transferScript (options : TransferOptions) (pacing : Pacing) {host : String}
    (blankless : ' ' ∉ host.toList) (unbroken : '\n' ∉ host.toList) :
    ofScript? (transferScript options pacing (.remote host)).text =
      ofOperand? (RsyncTarget.remote host).operand.toList := by
  let script := transferScript options pacing (.remote host)
  rcases script.exists_toList_text with ⟨after, text_eq⟩
  rcases commandOf_startLine options.deleteExtraneous blankless with ⟨words, line_words⟩
  have lines_unbroken : ∀ line ∈ script.linesBefore ++ [startLine script.command],
      '\n' ∉ line := by
    rw [List.forall_mem_append, List.forall_mem_singleton]
    exact ⟨fun line line_mem => (linesBefore_plain script line line_mem).1,
      startLine_unbroken _ unbroken⟩
  have passed_over : (script.linesBefore.map commandOf).find?
      (·.head? = some "rsync".toList) = none := by
    rw [List.find?_eq_none, List.forall_mem_map]
    intro line line_mem
    simpa using (linesBefore_plain script line line_mem).2
  have line_found : ([startLine script.command].map commandOf).find?
      (·.head? = some "rsync".toList) =
        some ("rsync".toList :: words ++ [(RsyncTarget.remote host).operand.toList]) := by
    have command_eq : script.command = toHost options.deleteExtraneous host := rfl
    rw [command_eq, List.map_singleton, line_words]
    simp
  rw [ofScript?, text_eq, Text.splitOn_lines lines_unbroken, List.map_append, List.map_append,
    List.append_assoc, List.find?_append, passed_over, List.find?_append, line_found]
  change ("rsync".toList :: words ++ [_]).getLast?.bind ofOperand? = _
  rw [List.getLast?_concat, Option.bind_some]

end RemotePlace

end VolumeMigration
