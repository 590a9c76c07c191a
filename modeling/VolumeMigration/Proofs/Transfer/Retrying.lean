import VolumeMigration.Proofs.Shell.Semantics
import VolumeMigration.Proofs.Transfer.Reading

/-!
# The script that copies tries again

What the shell does when it runs the script: it starts rsync until one start succeeds or the
attempts are used up, waits after every start that failed, and ends with the result. The programs
that it starts may end with any statuses. `RetryScript.Before` is what holds before each attempt,
`RetryScript.loops` the loop, and `transferScript_retries` the whole script.
-/

namespace VolumeMigration

open Shell

namespace RetryScript

variable (script : RetryScript) (exits : Nat → Nat)

/-! ## One attempt -/

/-- What is told when a number of attempts have failed. -/
def failure (limit delay count : Nat) : String :=
  "rsync attempt " ++ toString count ++ "/" ++ toString limit ++ " failed, waiting " ++
    toString delay ++ " seconds before retry"

/-- What the attempt with an index leaves in the record: the start, and after one that failed what
is told and the wait. -/
def attempt (arguments : List String) (limit delay index : Nat) : List Effect :=
  .started arguments (exits index) ::
    if exits index = 0 then [] else [.echoed [failure limit delay (index + 1)], .slept delay]

/-- Starts that end with some statuses are tried until one succeeds, at most `limit` times. The
result is 0 if one did, and 1 otherwise. -/
structure Tries (statuses : Nat → Nat) (limit tries code : Nat) : Prop where
  bounded : tries ≤ limit
  untilSuccess : ∀ index, index + 1 < tries → statuses index ≠ 0
  exhausting : (∀ index < tries, statuses index ≠ 0) → tries = limit
  succeeds : (∃ index < tries, statuses index = 0) → code = 0
  fails : (∀ index < tries, statuses index ≠ 0) → code = 1

/-- The machine before the attempt with an index. -/
structure Before (index : Nat) (machine : Machine) : Prop where
  counter : machine.values "n" = toString index
  limit : machine.values "retries" = toString script.retries
  result : machine.values "rc" = "1"
  starts : machine.starts = index

variable {script} {index : Nat} {machine : Machine}

/-- The loop ends once all retries are used up. -/
theorem runs_test (before : script.Before index machine) :
    test.Runs exits machine (.finished (if script.retries ≤ index then 0 else 1)) machine := by
  have hyphened := @unspecial_of_all false "-ge".toList (by decide +kernel)
  have bracket := @unspecial_of_all false "]".toList (by decide +kernel)
  apply runs_run exits
  · apply List.Forall₂.cons
    · exact rfl
    · refine .cons (expand?_parameter "n") (.cons (expand?_letters hyphened)
        (.cons (expand?_parameter "retries") (.cons (expand?_letters bracket) .nil)))
  · simp [perform?, before.counter, before.limit]

/-- A round starts rsync once and ends as it does. -/
theorem runs_start (plain : script.command.target.IsPlain)
    (before : script.Before index machine) :
    script.start.Runs exits machine (.finished (exits index))
      (machine.record (.started script.command.arguments (exits index))) := by
  apply runs_run exits (expand?_arguments (RsyncCommand.isPlain_of_mem plain))
  rw [← before.starts]
  rfl

theorem expand?_message {values : String → String} {count : Nat}
    (counter : values "n" = toString count) (limit : values "retries" = toString script.retries) :
    expand? values script.message = some (failure script.retries script.delay count) := by
  have first := @unspecial_of_all true "rsync attempt ".toList (by decide +kernel)
  have second := @unspecial_of_all true "/".toList (by decide +kernel)
  have third := @unspecial_of_all true " failed, waiting ".toList (by decide +kernel)
  have fourth := @unspecial_of_all true " seconds before retry".toList (by decide +kernel)
  have counted : text? values [.parameter true "n"] = some (toString count).toList := by
    simp [text?, Piece.text?, counter]
  have limited : text? values [.parameter true "retries"] =
      some (toString script.retries).toList := by
    simp [text?, Piece.text?, limit]
  have read := text?_append (text?_append (text?_append (text?_append (text?_append (text?_append
    (text?_letters first) counted) (text?_letters second)) limited) (text?_letters third))
      (text?_letters (toString_unspecial true script.delay))) (text?_letters fourth)
  have unbracketed : script.message ≠ [.letter false '['] := by
    intro same
    simp [message, letters] at same
  simp only [← String.toList_append] at read
  rw [expand?, if_neg unbracketed, message, read, Option.map_some, String.ofList_toList]
  rfl

/-- After a start that succeeded the loop is left with the result. -/
theorem runs_body_succeeded (plain : script.command.target.IsPlain)
    (before : script.Before index machine) (succeeded : exits index = 0) :
    ∃ final, script.body.Runs exits machine .broke final ∧ final.values "rc" = "0" ∧
      final.effects = machine.effects ++
        attempt exits script.command.arguments script.retries script.delay index := by
  have started := runs_start exits plain before
  have noted : (Command.assign "rc" (letters false ['0'])).Runs exits
      (machine.record (.started script.command.arguments (exits index))) (.finished 0) _ :=
    runs_assign exits (by decide) rfl
  have left : (Command.run [letters false "break".toList]).Runs exits
      ((machine.record (.started script.command.arguments (exits index))).assign "rc" "0")
      .broke _ :=
    runs_run exits (.cons rfl .nil) rfl
  refine ⟨_, .only (.both (.both started ?_ noted) rfl left) rfl, ?_, ?_⟩
  · simp [Shell.Ending.isSuccess, succeeded]
  · simp
  · simp [attempt, succeeded]

theorem runs_sleep (machine : Machine) :
    (Command.run [letters false "sleep".toList, letters false (toString script.delay).toList]).Runs
      exits machine (.finished 0) (machine.record (.slept script.delay)) := by
  have plain := @unspecial_of_all false "sleep".toList (by decide +kernel)
  have performed : perform? exits ["sleep", toString script.delay] machine =
      some (.finished 0, machine.record (.slept script.delay)) := by
    simp [perform?]
  apply runs_run exits _ performed
  exact .cons (expand?_letters plain)
    (.cons (expand?_letters (toString_unspecial false script.delay)) .nil)

/-- After a start that failed, the counter goes up, the failure is told and the delay is waited. -/
theorem runs_notice (counter : machine.values "n" = toString index)
    (limit : machine.values "retries" = toString script.retries) :
    script.notice.Runs exits machine (.finished 0)
      (((machine.assign "n" (toString (index + 1))).record
        (.echoed [failure script.retries script.delay (index + 1)])).record
          (.slept script.delay)) := by
  let counted := machine.assign "n" (toString (index + 1))
  have sum_eq : expand? machine.values [.sum false [.parameter "n", .number 1]] =
      some (toString (index + 1)) := by
    simp [expand?, text?, Piece.text?, Summand.value?, counter]
    rfl
  have message_eq : expand? counted.values script.message =
      some (failure script.retries script.delay (index + 1)) := by
    apply expand?_message
    · simp [counted]
    · simp [counted, limit]
  have plain := @unspecial_of_all false "echo".toList (by decide +kernel)
  have tells : (Command.run [letters false "echo".toList, script.message]).Runs exits counted
      (.finished 0) (counted.record (.echoed [failure script.retries script.delay (index + 1)])) :=
    runs_run exits (.cons (expand?_letters plain) (.cons message_eq .nil)) rfl
  exact .both (runs_assign exits (by decide) sum_eq) rfl
    (.both tells rfl (runs_sleep exits _))

/-- After a start that failed the loop goes on with the next attempt. -/
theorem runs_body_failed (plain : script.command.target.IsPlain)
    (before : script.Before index machine) (failed : exits index ≠ 0) :
    ∃ next, script.body.Runs exits machine (.finished 0) next ∧
      script.Before (index + 1) next ∧
      next.effects = machine.effects ++
        attempt exits script.command.arguments script.retries script.delay index := by
  have started := runs_start exits plain before
  have unsuccessful : (Shell.Ending.finished (exits index)).isSuccess = false := by
    simp [Shell.Ending.isSuccess, failed]
  have noticed : script.notice.Runs exits
      (machine.record (.started script.command.arguments (exits index))) (.finished 0) _ :=
    runs_notice exits before.counter before.limit
  refine ⟨_, .both (.only (.only started unsuccessful) unsuccessful) rfl noticed, ?_, ?_⟩
  · constructor
    · simp
    · simp [before.limit]
    · simp [before.result]
    · simp [before.starts, Effect.isStart]
  · simp [attempt, failed]

/-! ## All attempts -/

namespace Tries

variable {statuses : Nat → Nat} {limit tries code : Nat}

/-- Without retries nothing is started. -/
theorem none : Tries statuses 0 0 1 := by
  constructor <;> simp

/-- The first start that succeeds is the last one. -/
theorem success (succeeded : statuses 0 = 0) : Tries statuses (limit + 1) 1 0 := by
  constructor
  case bounded => omega
  case untilSuccess =>
    intro index below
    omega
  case exhausting =>
    intro failing
    exact absurd succeeded (failing 0 (by omega))
  case succeeds =>
    intro _
    rfl
  case fails =>
    intro failing
    exact absurd succeeded (failing 0 (by omega))

/-- After a start that failed, the others follow with one retry less. -/
theorem again (failed : statuses 0 ≠ 0)
    (others : Tries (fun index => statuses (index + 1)) limit tries code) :
    Tries statuses (limit + 1) (tries + 1) code := by
  have later : (∀ index < tries + 1, statuses index ≠ 0) →
      ∀ index < tries, statuses (index + 1) ≠ 0 := by
    intro failing index below
    apply failing
    omega
  constructor
  case bounded =>
    have bounded := others.bounded
    omega
  case untilSuccess =>
    intro index below
    cases index with
    | zero => exact failed
    | succ index =>
        apply others.untilSuccess
        omega
  case exhausting =>
    intro failing
    rw [others.exhausting (later failing)]
  case succeeds =>
    rintro ⟨index, below, succeeded⟩
    cases index with
    | zero => contradiction
    | succ index =>
        apply others.succeeds
        exact ⟨index, by omega, succeeded⟩
  case fails =>
    intro failing
    exact others.fails (later failing)

theorem code_cases (result : Tries statuses limit tries code) : code = 0 ∨ code = 1 := by
  by_cases some : ∃ index < tries, statuses index = 0
  · exact .inl (result.succeeds some)
  · apply Or.inr
    apply result.fails
    intro index below succeeded
    exact some ⟨index, below, succeeded⟩

end Tries

/-- The loop makes the attempts that are left, until one of them succeeds. -/
theorem loops (plain : script.command.target.IsPlain) (left : Nat) :
    ∀ (index last : Nat) (machine : Machine), script.Before index machine →
      index + left = script.retries →
        ∃ tries code status final,
          Loops (test.Runs exits) (script.body.Runs exits) last machine (.finished status) final ∧
            Tries (fun later => exits (index + later)) left tries code ∧
            final.values "rc" = toString code ∧
            final.effects = machine.effects ++ (List.range' index tries).flatMap
              (attempt exits script.command.arguments script.retries script.delay) := by
  -- The counter of the script and the attempts that are left add up to the limit throughout.
  induction left with
  | zero =>
      intro index last machine before total
      have tested := runs_test exits before
      rw [if_pos (by omega)] at tested
      exact ⟨0, 1, last, machine, .stop tested rfl, Tries.none, before.result, by simp⟩
  | succ left ih =>
      intro index last machine before total
      have tested := runs_test exits before
      rw [if_neg (by omega)] at tested
      by_cases succeeded : exits index = 0
      · rcases runs_body_succeeded exits plain before succeeded with ⟨final, ran, result, effects⟩
        refine ⟨1, 0, 0, final, .leave tested rfl ran rfl, Tries.success succeeded,
          result, ?_⟩
        simp [effects]
      · rcases runs_body_failed exits plain before succeeded with ⟨next, ran, goes, effects⟩
        rcases ih (index + 1) 0 next goes (by omega) with
          ⟨tries, code, status, final, others, result, final_result, final_effects⟩
        refine ⟨tries + 1, code, status, final, .again tested rfl ran others, ?_,
          final_result, ?_⟩
        · apply Tries.again succeeded
          have shifted : (fun later => exits (index + 1 + later)) =
              fun later => exits (index + (later + 1)) := by
            funext later
            congr 1
            omega
          rwa [shifted] at result
        · rw [final_effects, effects, List.range'_succ, List.flatMap_cons, List.append_assoc]

/-- The shell is left with the status that was noted. -/
theorem runs_exit {code : Nat} (result : machine.values "rc" = toString code)
    (small : code = 0 ∨ code = 1) :
    (Command.run [letters false "exit".toList, [.parameter false "rc"]]).Runs exits machine
      (.exited code) machine := by
  have plain := @unspecial_of_all false "exit".toList (by decide +kernel)
  have field : isField (toString code).toList = true := by
    rcases small with rfl | rfl
    · decide +kernel
    · decide +kernel
  have read : expand? machine.values [.parameter false "rc"] = some (toString code) := by
    simp only [expand?, text?, Piece.text?, result, field]
    simp
    rfl
  apply runs_run exits (.cons (expand?_letters plain) (.cons read .nil))
  have below : code < 256 := by omega
  simp [perform?, below]

/-- The script makes its attempts and ends with their result. -/
theorem executes (plain : script.command.target.IsPlain) (values : String → String) :
    ∃ tries code final, Executes exits script.text ⟨values, []⟩ code final ∧
      Tries exits script.retries tries code ∧
      final.effects = (List.range tries).flatMap
        (attempt exits script.command.arguments script.retries script.delay) := by
  let start := (((Machine.mk values []).assign "n" "0").assign "rc" "1").assign "retries"
    (toString script.retries)
  have before : script.Before 0 start := by
    constructor
    case counter =>
      simp [start]
      rfl
    all_goals simp [start, Machine.starts]
  have untilded := tilde_not_mem_toString false script.retries
  rcases loops exits plain script.retries 0 0 start before (by omega) with
    ⟨tries, code, status, final, looped, result, final_result, effects⟩
  have program_runs : script.program.Runs exits ⟨values, []⟩ (.exited code) final :=
    .both (runs_assign exits (by decide) rfl) rfl
      (.both (runs_assign exits (by decide) rfl) rfl
        (.both (runs_assign exits untilded (expand?_letters (toString_unspecial false _))) rfl
          (.both looped rfl (runs_exit exits final_result result.code_cases))))
  refine ⟨tries, code, final, ⟨_, _, parse?_text script plain, program_runs, .inr rfl⟩, ?_, ?_⟩
  · simpa using result
  · rw [effects, List.range_eq_range']
    rfl

end RetryScript

/-- What a run of the script that copies does and what it ends with, if the programs that it starts
end with some statuses. -/
structure Retries (options : TransferOptions) (pacing : Pacing) (target : RsyncTarget)
    (exits : Nat → Nat) (tries code : Nat) (effects : List Effect) : Prop extends
    RetryScript.Tries exits (max pacing.retries 1) tries code where
  recorded : effects = (List.range tries).flatMap
    (RetryScript.attempt exits (RsyncCommand.arguments ⟨options.deleteExtraneous, target⟩)
      (max pacing.retries 1) pacing.retryDelay.wholeSeconds)
  deletes : ∀ words status, .started words status ∈ effects →
    ("--delete" ∈ words ↔ options.deleteExtraneous = true)

/-- The script that copies tries again as configured, whatever its attempts end with. -/
theorem transferScript_retries (options : TransferOptions) (pacing : Pacing) {target : RsyncTarget}
    (plain : target.IsPlain) (exits : Nat → Nat) (values : String → String) :
    ∃ tries code final,
      Executes exits (transferScript options pacing target).text ⟨values, []⟩ code final ∧
      (∀ other after,
        Executes exits (transferScript options pacing target).text ⟨values, []⟩ other after →
          other = code ∧ after = final) ∧
      Retries options pacing target exits tries code final.effects := by
  let script := transferScript options pacing target
  rcases @RetryScript.executes script exits plain values with
    ⟨tries, code, final, executed, result, effects⟩
  have deletes : ∀ words status, .started words status ∈ final.effects →
      ("--delete" ∈ words ↔ options.deleteExtraneous = true) := by
    intro words status started
    rw [effects, List.mem_flatMap] at started
    rcases started with ⟨index, _, started⟩
    have words_eq : words = script.command.arguments := by
      rw [RetryScript.attempt, List.mem_cons, Effect.started.injEq] at started
      rcases started with here | later
      · exact here.1
      · by_cases succeeded : exits index = 0 <;> simp [succeeded] at later
    rw [words_eq]
    exact RsyncCommand.mem_arguments_iff script.command
  refine ⟨tries, code, final, executed, ?_, ?_⟩
  · intro other after otherwise
    exact Executes.unique exits otherwise executed
  · exact { toTries := result, recorded := effects, deletes }

/-- An attempt that is interrupted, and one that succeeds. -/
theorem transferScript_retries_interrupted :
    RsyncTarget.IsPlain (.remote "relay.example") ∧
      ∃ tries code final,
        Executes (fun index => if index = 0 then 12 else 0)
          (transferScript ⟨true, false⟩ .standard (.remote "relay.example")).text
          ⟨fun _ => "", []⟩ code final ∧
        tries = 2 ∧ code = 0 ∧
        final.effects = (List.range tries).flatMap
          (RetryScript.attempt (fun index => if index = 0 then 12 else 0)
            (RsyncCommand.arguments ⟨true, .remote "relay.example"⟩) 10 5) := by
  have plain : RsyncTarget.IsPlain (.remote "relay.example") :=
    @unspecial_of_all false "relay.example".toList (by decide +kernel)
  rcases transferScript_retries ⟨true, false⟩ .standard plain
    (fun index => if index = 0 then 12 else 0) (fun _ => "") with
    ⟨tries, code, final, executed, _, result⟩
  have several : 1 < tries := by
    by_contra few
    have used_up := result.exhausting (by
      intro index below
      have first : index = 0 := by omega
      simp [first])
    simp [Pacing.standard] at used_up
    omega
  have stopped : ¬ 2 < tries := by
    intro more
    exact result.untilSuccess 1 more (by simp)
  have two : tries = 2 := by omega
  have zero : code = 0 := result.succeeds ⟨1, several, by simp⟩
  exact ⟨plain, tries, code, final, executed, two, zero, result.recorded⟩

end VolumeMigration
