import VolumeMigration.Event.Basic
import VolumeMigration.Failure

/-!
# Reporting events

Events go to a publisher, which may log them and may fail. `MigrationEvent.reports` is what the
log says about an event: failed executions and resources left over are warnings, and the
evaluation of single strategies is shown only on request. `EventLog` collects events for a reader.
-/

namespace VolumeMigration

/-- The importance of a log record. -/
inductive LogLevel where
  | trace
  | debug
  | info
  | warn
  | error
  deriving DecidableEq

namespace LogLevel

/-- The level as log lines show it. -/
def name : LogLevel → String
  | .trace => "TRACE"
  | .debug => "DEBUG"
  | .info => "INFO"
  | .warn => "WARN"
  | .error => "ERROR"

/-- The place of a level, the least important first. -/
def rank : LogLevel → Nat
  | .trace => 0
  | .debug => 1
  | .info => 2
  | .warn => 3
  | .error => 4

end LogLevel

/-- A line of the log. -/
structure LogRecord where
  level : LogLevel
  message : String
  deriving DecidableEq

namespace MigrationEvent

/-- The level at which the log tells of an event. -/
def reportLevel (verbose : Bool) : MigrationEvent → LogLevel
  | .executionFinished _ _ _ succeeded _ _ _ => if succeeded then .info else .warn
  | .evaluationStarted .. | .applicabilityDetermined .. => if verbose then .info else .debug
  | .candidatesResolved .. | .executionStarted .. => .info

/-- The resources that an event tells were left over. -/
def leftovers : MigrationEvent → List String
  | .executionFinished _ _ _ _ _ teardownFailures _ => teardownFailures
  | _ => []

/-- What the log says about an event. -/
def reports (verbose : Bool) (event : MigrationEvent) : List LogRecord :=
  ⟨event.reportLevel verbose, event.summary⟩ ::
    event.leftovers.map fun leftover => ⟨.warn, "Leftover resource: " ++ leftover⟩

end MigrationEvent

/-- What a publisher does with an event: the lines that it logs, and its failure if it fails. -/
structure Delivery where
  records : List LogRecord
  failure : Option Failure

/-- A publisher: what it does with an event after a number of earlier ones. -/
abbrev Publisher := Nat → MigrationEvent → Delivery

namespace Publisher

/-- The publisher that tells the log of every event. -/
def logging (verbose : Bool) : Publisher := fun _ event =>
  { records := event.reports verbose, failure := none }

end Publisher

/-- Events in the order in which they were published. -/
structure EventLog where
  events : List MigrationEvent

namespace EventLog

/-- A log without events. -/
def empty : EventLog := ⟨[]⟩

/-- A log with one more event at its end. -/
def push (log : EventLog) (event : MigrationEvent) : EventLog :=
  ⟨log.events ++ [event]⟩

/-- How many events a log has. -/
def size (log : EventLog) : Nat := log.events.length

/-- Whether a log has no events. -/
def isEmpty (log : EventLog) : Bool := log.events.isEmpty

/-- The events of one type, in order. -/
def ofType (log : EventLog) (typeName : String) : List MigrationEvent :=
  log.events.filter (·.typeName == typeName)

/-- The events about one strategy, in order. -/
def ofStrategy (log : EventLog) (strategy : String) : List MigrationEvent :=
  log.events.filter (·.strategy? == some strategy)

end EventLog

end VolumeMigration
