import VolumeMigration.Strategy.Basic

/-!
# Strategies that follow a script

A scripted strategy answers and ends as written down beforehand. It traces what it is asked, so that
a run shows the order of evaluations and executions among the calls to clusters.
-/

namespace VolumeMigration

/-- A strategy that follows a script. -/
structure ScriptedStrategy where
  name : String
  /-- Whether the token is cancelled while it says whether it applies. -/
  cancelsEvaluation : Bool
  /-- How it fails to say whether it applies. -/
  evaluationFailure : Option Failure
  /-- Why it does not apply. -/
  refusal : Option String
  /-- The resources that it leaves over. -/
  leftovers : List String
  /-- Whether the token is cancelled while it executes. -/
  cancelsExecution : Bool
  executionFailure : Option Failure

namespace ScriptedStrategy

/-- A message for the log, at the level that is shown least. -/
def trace (message : String) : Plan Unit :=
  .step (.log ⟨.trace, message⟩) .done

/-- The token is cancelled, or nothing is done. -/
def cancelIf (cancels : Bool) : Plan Unit :=
  if cancels then .step .cancelToken .done else return ()

/-- Whether the strategy applies, as its script says. -/
def applicable (script : ScriptedStrategy) (context : AttemptContext) : Plan Applicability := do
  trace ("applicable " ++ context.resourceName script.name)
  cancelIf script.cancelsEvaluation
  match script.evaluationFailure, script.refusal with
  | some failure, _ => Plan.fail failure
  | none, some reason =>
      trace "is_applicable false"
      return .notApplicable reason
  | none, none =>
      trace "is_applicable true"
      return .applicable

/-- Executes the strategy as its script says. -/
def execute (script : ScriptedStrategy) (context : AttemptContext) : Plan Unit := do
  trace ("execute " ++ context.resourceName script.name)
  for leftover in script.leftovers do
    Plan.noteLeftover leftover
  cancelIf script.cancelsExecution
  match script.executionFailure with
  | some failure => Plan.fail failure
  | none => return ()

/-- The strategy that follows a script. -/
def toStrategy (script : ScriptedStrategy) : Strategy :=
  { name := script.name, applicable := script.applicable, execute := script.execute }

end ScriptedStrategy

end VolumeMigration
