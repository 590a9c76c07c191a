import VolumeMigration.Proofs.Plan.Calls
import VolumeMigration.Run.Engine

/-!
# The chronicle of a run

The chronicle of a run is its history with the state of the run at every occurrence. Since a run
takes notes of its changes of state, the chronicle tells during which attempt, and in which part of
it, a cluster was asked. `exchangesDuring` collects the calls of such a part with their results.
-/

namespace VolumeMigration

namespace Occurrence

/-- The event that an occurrence is. -/
def event? : Occurrence → Option MigrationEvent
  | .emitted event _ => some event
  | _ => none

/-- Whether an occurrence is only a note about the run. -/
def isNote : Occurrence → Bool
  | .logged _ | .emitted _ _ | .stepped _ => true
  | .exchange _ _ _ | .cancellation => false

theorem exchange?_of_isNote {occurrence : Occurrence} (note : occurrence.isNote = true) :
    occurrence.exchange? = none := by
  cases occurrence <;> simp_all [isNote, exchange?]

theorem isCancellation_of_isNote {occurrence : Occurrence} (note : occurrence.isNote = true) :
    occurrence.isCancellation = false := by
  cases occurrence <;> simp_all [isNote, isCancellation]

end Occurrence

theorem cancelledAfter_of_notes {cancelled : Bool} {trace : List Occurrence}
    (notes : ∀ occurrence ∈ trace, occurrence.isNote = true) :
    cancelledAfter cancelled trace = cancelled := by
  simp only [cancelledAfter, Bool.or_eq_left_iff_imp, List.any_eq_true]
  rintro ⟨occurrence, occurrence_mem, cancels⟩
  simp [Occurrence.isCancellation_of_isNote (notes occurrence occurrence_mem)] at cancels

theorem not_mem_of_uncancelled {cancelled : Bool} {trace : List Occurrence}
    (uncancelled : cancelledAfter cancelled trace = false) : .cancellation ∉ trace := by
  intro cancellation_mem
  have cancels : trace.any Occurrence.isCancellation = true :=
    List.any_eq_true.mpr ⟨_, cancellation_mem, rfl⟩
  simp [cancelledAfter, cancels] at uncancelled

theorem exchanges_of_notes {trace : List Occurrence}
    (notes : ∀ occurrence ∈ trace, occurrence.isNote = true) : exchanges trace = [] := by
  apply List.filterMap_eq_nil_iff.mpr
  intro occurrence occurrence_mem
  exact Occurrence.exchange?_of_isNote (notes occurrence occurrence_mem)

/-! ## Moments -/

/-- An occurrence with the state of the run in which it fell. -/
structure Moment where
  state : RunState
  occurrence : Occurrence

/-- The state of a run behind an occurrence. -/
def RunState.next (state : RunState) (occurrence : Occurrence) : RunState :=
  (occurrence.step?.map RunStep.state).getD state

/-- The state of a run behind some occurrences. -/
def RunState.after (state : RunState) (trace : List Occurrence) : RunState :=
  trace.foldl RunState.next state

/-- Occurrences with the states in which they fall. A change of state falls into the new one. -/
def moments (state : RunState) : List Occurrence → List Moment
  | [] => []
  | occurrence :: rest =>
      ⟨state.next occurrence, occurrence⟩ :: moments (state.next occurrence) rest

/-- The states that a history tells of, in order. -/
def statesOf (trace : List Occurrence) : List RunState :=
  (trace.filterMap Occurrence.step?).map RunStep.state

/-- The exchanges of a chronicle with the states in which they fall. -/
def calls (chronicle : List Moment) : List (RunState × Exchange) :=
  chronicle.filterMap fun moment => moment.occurrence.exchange?.map (moment.state, ·)

/-- The exchanges that fall into a state. -/
def exchangesDuring (state : RunState) (chronicle : List Moment) : List Exchange :=
  chronicle.filterMap fun moment =>
    if moment.state = state then moment.occurrence.exchange? else none

/-- The moments of a later part begin in the state that the earlier part leads to. -/
@[simp]
theorem moments_append (state : RunState) (first second : List Occurrence) :
    moments state (first ++ second) =
      moments state first ++ moments (state.after first) second := by
  induction first generalizing state with
  | nil => rfl
  | cons occurrence rest ih => simp [moments, ih, RunState.after]

@[simp]
theorem map_occurrence_moments (state : RunState) (trace : List Occurrence) :
    (moments state trace).map Moment.occurrence = trace := by
  induction trace generalizing state with
  | nil => rfl
  | cons occurrence rest ih => simp [moments, ih]

@[simp]
theorem statesOf_append (first second : List Occurrence) :
    statesOf (first ++ second) = statesOf first ++ statesOf second := by
  simp [statesOf]

theorem occurrence_mem_of_moments {state : RunState} {trace : List Occurrence}
    {moment : Moment} (moment_mem : moment ∈ moments state trace) :
    moment.occurrence ∈ trace := by
  rw [← map_occurrence_moments state trace]
  exact List.mem_map_of_mem moment_mem

theorem statesOf_of_unstepped {trace : List Occurrence}
    (unstepped : ∀ occurrence ∈ trace, occurrence.step? = none) : statesOf trace = [] := by
  simpa [statesOf] using unstepped

@[simp]
theorem calls_append (first second : List Moment) :
    calls (first ++ second) = calls first ++ calls second :=
  List.filterMap_append

@[simp]
theorem exchangesDuring_append (state : RunState) (first second : List Moment) :
    exchangesDuring state (first ++ second) =
      exchangesDuring state first ++ exchangesDuring state second :=
  List.filterMap_append

theorem moments_of_unstepped {state : RunState} {trace : List Occurrence}
    (unstepped : ∀ occurrence ∈ trace, occurrence.step? = none) :
    moments state trace = trace.map (Moment.mk state) := by
  induction trace with
  | nil => rfl
  | cons occurrence rest ih =>
      rw [List.forall_mem_cons] at unstepped
      simp [moments, RunState.next, unstepped.1, ih unstepped.2]

theorem calls_of_unstepped (state : RunState) {trace : List Occurrence}
    (unstepped : ∀ occurrence ∈ trace, occurrence.step? = none) :
    calls (moments state trace) = (exchanges trace).map (state, ·) := by
  rw [moments_of_unstepped unstepped, calls, exchanges, List.filterMap_map, List.map_filterMap]
  rfl

theorem calls_of_notes (state : RunState) {trace : List Occurrence}
    (notes : ∀ occurrence ∈ trace, occurrence.isNote = true) :
    calls (moments state trace) = [] := by
  induction trace generalizing state with
  | nil => rfl
  | cons occurrence rest ih =>
      rw [List.forall_mem_cons] at notes
      simpa [calls, moments, Occurrence.exchange?_of_isNote notes.1] using
        ih (state.next occurrence) notes.2

theorem mem_calls {chronicle : List Moment} {call : RunState × Exchange} :
    call ∈ calls chronicle ↔
      ∃ moment ∈ chronicle, moment.state = call.1 ∧ moment.occurrence.exchange? = some call.2 := by
  rcases call with ⟨state, exchange⟩
  simp only [calls, List.mem_filterMap, Option.map_eq_some_iff, Prod.mk.injEq]
  constructor
  · rintro ⟨moment, moment_mem, other, found, same, rfl⟩
    exact ⟨moment, moment_mem, same, found⟩
  · rintro ⟨moment, moment_mem, same, found⟩
    exact ⟨moment, moment_mem, exchange, found, same, rfl⟩

/-- The calls in a state are those of its moments. -/
theorem mem_exchangesDuring {state : RunState} {chronicle : List Moment} {exchange : Exchange} :
    exchange ∈ exchangesDuring state chronicle ↔
      ∃ moment ∈ chronicle, moment.state = state ∧
        moment.occurrence.exchange? = some exchange := by
  simp only [exchangesDuring, List.mem_filterMap]
  constructor
  · rintro ⟨moment, moment_mem, found⟩
    by_cases same : moment.state = state
    · exact ⟨moment, moment_mem, same, by simpa [same] using found⟩
    · simp [same] at found
  · rintro ⟨moment, moment_mem, same, found⟩
    exact ⟨moment, moment_mem, by simp [same, found]⟩

theorem exchangesDuring_cons {state : RunState} {moment : Moment} {exchange : Exchange}
    (same : moment.state = state) (found : moment.occurrence.exchange? = some exchange)
    (rest : List Moment) :
    exchangesDuring state (moment :: rest) = exchange :: exchangesDuring state rest :=
  List.filterMap_cons_some (by simp [same, found])

theorem exchangesDuring_map (state : RunState) (trace : List Occurrence) :
    exchangesDuring state (trace.map (Moment.mk state)) = exchanges trace := by
  rw [exchangesDuring, exchanges, List.filterMap_map]
  congr 1
  funext occurrence
  exact if_pos rfl

theorem exchangesDuring_eq (state : RunState) (chronicle : List Moment) :
    exchangesDuring state chronicle =
      (calls chronicle).filterMap fun call => if call.1 = state then some call.2 else none := by
  simp only [exchangesDuring, calls, List.filterMap_filterMap]
  congr 1
  funext moment
  cases moment.occurrence.exchange? <;> simp

/-- The state after some occurrences is the last one that they tell of. -/
theorem RunState.after_eq (state : RunState) (trace : List Occurrence) :
    state.after trace = (statesOf trace).getLast?.getD state := by
  induction trace generalizing state with
  | nil => rfl
  | cons occurrence rest ih =>
      change (state.next occurrence).after rest = _
      rw [ih]
      cases told : occurrence.step? with
      | none => simp [RunState.next, statesOf, told]
      | some step => simp [RunState.next, statesOf, told, List.getLast?_cons]

/-- Every state of a chronicle is the one that it starts in, or one that it tells of. -/
theorem state_of_mem_moments {state : RunState} {trace : List Occurrence} {moment : Moment}
    (moment_mem : moment ∈ moments state trace) :
    moment.state = state ∨ moment.state ∈ statesOf trace := by
  induction trace generalizing state with
  | nil => cases moment_mem
  | cons occurrence rest ih =>
      have next_state : state.next occurrence = state ∨
          state.next occurrence ∈ statesOf (occurrence :: rest) := by
        cases told : occurrence.step? <;> simp [RunState.next, statesOf, told]
      have later {other : RunState} (told : other ∈ statesOf rest) :
          other ∈ statesOf (occurrence :: rest) := by
        cases here : occurrence.step? <;> simp_all [statesOf]
      rcases List.mem_cons.mp moment_mem with rfl | moment_mem
      · exact next_state
      · rcases ih moment_mem with same | told
        · rwa [same]
        · exact .inr (later told)

/-! ## Runs -/

/-- The attempts that the result of a run tells of. -/
def attemptsOf : Except Failure MigrationReport → List AttemptResult
  | .ok report => report.attempts
  | .error failure => failure.attempts

/-- The chronicle of a run: what happened in it, with the states in which it fell. -/
def Engine.chronicle {σ : Type} (engine : Engine) (environment : Environment σ)
    (request : Request) (clusters : ClusterSet ClusterHandle) (world : World σ) : List Moment :=
  moments .pending (world.since ((engine.run environment request clusters).run world).2)

end VolumeMigration
