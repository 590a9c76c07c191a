import Mathlib.Data.List.Chain
import VolumeMigration.Proofs.Plan.Spending

/-!
# The schedule of a wait

A wait looks at once and then after every interval. It ends with the first look that decides it,
with the cancellation of the token or with its limit, whichever comes first. `Schedule` lists the
looks of a wait, with the worlds before and after each of them, and says how it ends; the schedules
from a world are the runs from there (`run_pollUntil_iff`).

At the moment of a look the order is this: a token that is cancelled already forbids the look, a
look that is due when the limit is reached is still made, and if it decides, then it does not matter
that the token was cancelled meanwhile.
-/

namespace VolumeMigration

variable {σ α : Type}

/-- What the answer to a look decides. Nothing yet and a failure of the cluster decide nothing. -/
def decision? : Except Failure (Option α) → Option (Except Failure α)
  | .ok answer => answer.map .ok
  | .error failure => if failure.kind = .cluster then none else some (.error failure)

/-- The moment at which the token is cancelled if nothing but time passes. If it is cancelled
already, the moment is now. -/
def World.cancelMoment? (environment : Environment σ) (world : World σ) : Option Duration :=
  if world.cancelled then some world.clock else environment.cancelTime.map (max world.clock)

/-- A look, its answer and the worlds before and after it. -/
structure TimedLook (σ α : Type) where
  due : World σ
  answer : Except Failure (Option α)
  ended : World σ

namespace TimedLook

/-- The look that is made in a world. -/
def ofRun (environment : Environment σ) (look : Plan (Option α)) (world : World σ) :
    TimedLook σ α :=
  { due := world
    answer := (look.run environment world).1
    ended := (look.run environment world).2 }

/-- The world in which the pause after a look begins: the failure of a cluster has been logged. -/
def settled (timed : TimedLook σ α) : World σ :=
  match timed.answer with
  | .ok _ => timed.ended
  | .error failure => timed.ended.log ⟨.warn, "Failed to poll status: " ++ failure.message⟩

/-- A look that takes no time is settled when it was due. -/
theorem clock_settled {environment : Environment σ} {look : Plan (Option α)}
    (instant : ∀ world, (look.run environment world).2.clock = world.clock) (world : World σ) :
    (ofRun environment look world).settled.clock = world.clock := by
  rw [← instant world]
  unfold settled
  split <;> rfl

end TimedLook

/-- How a wait ends that began in a world and made some looks. -/
inductive WaitEnding (environment : Environment σ) (interval limit : Duration)
    (tooLate : Failure) (start : World σ) (looks : List (TimedLook σ α)) :
    Except Failure α → World σ → Prop where
  | unbegun (cancelled : start.cancelled = true) (unlooked : looks = []) :
      WaitEnding environment interval limit tooLate start looks (.error .cancelled) start
  | decided {last : TimedLook σ α} {result : Except Failure α}
      (last_eq : looks.getLast? = some last) (decisive : decision? last.answer = some result) :
      WaitEnding environment interval limit tooLate start looks result last.ended
  | cancelled {last : TimedLook σ α} {moment : Duration}
      (last_eq : looks.getLast? = some last) (undecided : decision? last.answer = none)
      (cancels : last.settled.cancelMoment? environment = some moment)
      (before_look : moment ≤ last.due.clock + interval)
      (in_time : moment ≤ start.clock + limit) :
      WaitEnding environment interval limit tooLate start looks (.error .cancelled)
        { last.settled with clock := moment }.cancel
  | expired {last : TimedLook σ α}
      (last_eq : looks.getLast? = some last) (undecided : decision? last.answer = none)
      (uncancelled : ∀ moment ∈ last.settled.cancelMoment? environment,
        start.clock + limit < moment)
      (count : looks.length = limit / interval + 1) :
      WaitEnding environment interval limit tooLate start looks (.error tooLate)
        { last.settled with clock := start.clock + limit }

/-- The looks of a wait that begins in a world, and how it ends. -/
structure Schedule (environment : Environment σ) (interval limit : Duration)
    (tooLate : Failure) (look : Plan (Option α)) (start : World σ)
    (looks : List (TimedLook σ α)) (result : Except Failure α) (final : World σ) : Prop where
  made : ∀ timed ∈ looks, timed = .ofRun environment look timed.due
  uncancelled : ∀ timed ∈ looks, timed.due.cancelled = false
  first : ∀ timed ∈ looks.head?, timed.due = start
  times : ∀ index timed, looks[index]? = some timed →
    timed.due.clock = start.clock + index * interval ∧ index * interval ≤ limit
  postponed : looks.IsChain fun earlier later =>
    decision? earlier.answer = none ∧
      (∀ moment ∈ earlier.settled.cancelMoment? environment, later.due.clock < moment) ∧
      later.due = { earlier.settled with clock := later.due.clock }
  ending : WaitEnding environment interval limit tooLate start looks result final

/-! ## Pauses -/

namespace World

variable {environment : Environment σ} {world : World σ} {length : Duration}

theorem uncancelled_of_later {moment : Duration}
    (later : ∀ other ∈ world.cancelMoment? environment, moment < other)
    (passed : world.clock ≤ moment) : world.cancelled = false := by
  by_contra cancelled
  have other := later world.clock (by simp [cancelMoment?, cancelled])
  exact Nat.not_lt_of_le passed other

/-- A pause in which the token is cancelled ends at that moment. -/
theorem pause_interrupted {moment : Duration}
    (cancels : world.cancelMoment? environment = some moment)
    (in_time : moment ≤ world.clock + length) :
    world.pause environment length = (false, { world with clock := moment }.cancel) := by
  unfold cancelMoment? at cancels
  unfold pause
  dsimp only
  split at cancels
  next cancelled =>
    cases cancels
    rw [if_pos cancelled, cancel_of_cancelled cancelled]
  next uncancelled =>
    rcases Option.map_eq_some_iff.mp cancels with ⟨time, time_eq, rfl⟩
    have reached : time ≤ world.clock + length := Nat.le_trans (Nat.le_max_right _ _) in_time
    simp [uncancelled, time_eq, reached]

/-- A pause that ends before the token is cancelled takes its whole length. -/
theorem pause_passed
    (later : ∀ moment ∈ world.cancelMoment? environment, world.clock + length < moment) :
    world.pause environment length = (true, { world with clock := world.clock + length }) := by
  have uncancelled := uncancelled_of_later later (Nat.le_add_right _ _)
  cases time_eq : environment.cancelTime with
  | none => simp [pause, uncancelled, time_eq]
  | some time =>
      have target_lt := later (max world.clock time)
        (by simp [cancelMoment?, uncancelled, time_eq])
      have unreached : ¬ time ≤ world.clock + length := by grind
      simp [pause, uncancelled, time_eq, unreached]

/-- Until an interval or a limit is over, whichever is over first, the token is cancelled or not. -/
theorem pause_cases (environment : Environment σ) (world : World σ) (interval limit : Duration) :
    (∃ moment, world.cancelMoment? environment = some moment ∧
        moment ≤ world.clock + interval ∧ moment ≤ world.clock + limit) ∨
      (interval ≤ limit ∧
        ∀ moment ∈ world.cancelMoment? environment, world.clock + interval < moment) ∨
      (limit < interval ∧
        ∀ moment ∈ world.cancelMoment? environment, world.clock + limit < moment) := by
  cases cancels : world.cancelMoment? environment with
  | none => simpa using (Nat.lt_or_ge limit interval).symm
  | some moment =>
      simp only [Option.mem_some_iff, Option.some_inj, exists_eq_left', forall_eq']
      -- durations are numbers, but only the type of numbers is known to the arithmetic
      unfold Duration at *
      omega

end World

namespace Plan

variable {β : Type} {environment : Environment σ} {world : World σ} {length : Duration}
  {next : Unit → Plan β}

theorem run_pause_bind_interrupted {moment : Duration}
    (cancels : world.cancelMoment? environment = some moment)
    (in_time : moment ≤ world.clock + length) :
    ((pause length).bind next).run environment world =
      (.error .cancelled, { world with clock := moment }.cancel) := by
  have paused := World.pause_interrupted cancels in_time
  simp [run_bind, pause, run, World.perform, paused]

theorem run_pause_bind_passed
    (later : ∀ moment ∈ world.cancelMoment? environment, world.clock + length < moment) :
    ((pause length).bind next).run environment world =
      (next ()).run environment { world with clock := world.clock + length } := by
  have paused := World.pause_passed later
  simp [run_bind, pause, run, World.perform, paused]

end Plan

/-! ## Steps of a wait -/

section Steps

variable {environment : Environment σ} {interval limit : Duration} {positive : 0 < interval}
  {tooLate : Failure} {look : Plan (Option α)} {world : World σ}

/-- With a cancelled token waiting ends before its first look. -/
theorem run_pollUntil_of_cancelled (positive : 0 < interval)
    (cancelled : world.cancelled = true) :
    (pollUntil positive limit tooLate look).run environment world =
      (.error .cancelled, world) := by
  rw [pollUntil_eq, Plan.run_bind]
  simp [lookOnce, Plan.run_bind, Plan.checkToken, Plan.run, World.perform, cancelled]

theorem run_lookOnce (uncancelled : world.cancelled = false) :
    (lookOnce look).run environment world =
      let timed : TimedLook σ α := .ofRun environment look world
      match decision? timed.answer with
      | some (.ok answer) => (.ok (some answer), timed.ended)
      | some (.error failure) => (.error failure, timed.ended)
      | none => (.ok none, timed.settled) := by
  rcases looked : look.run environment world with ⟨failure | _ | answer, ended⟩
  · by_cases kind : failure.kind = .cluster <;>
      simp [lookOnce, Plan.run_bind, Plan.run_attempt, Plan.checkToken, Plan.warn, Plan.run,
        World.perform, uncancelled, looked, TimedLook.ofRun, decision?, TimedLook.settled, kind]
  all_goals
    simp [lookOnce, Plan.run_bind, Plan.run_attempt, Plan.checkToken, Plan.run, World.perform,
      uncancelled, looked, TimedLook.ofRun, decision?, TimedLook.settled]

/-- A look that decides ends the wait. -/
theorem run_pollUntil_of_decided (positive : 0 < interval) (uncancelled : world.cancelled = false)
    {result : Except Failure α}
    (decided : decision? (TimedLook.ofRun environment look world).answer = some result) :
    (pollUntil positive limit tooLate look).run environment world =
      (result, (TimedLook.ofRun environment look world).ended) := by
  rw [pollUntil_eq, Plan.run_bind, run_lookOnce uncancelled]
  cases result <;> simp [decided, goOn, Plan.run]

/-- After a look that leaves it open, the wait goes on. -/
theorem run_pollUntil_of_undecided (positive : 0 < interval)
    (uncancelled : world.cancelled = false)
    (undecided : decision? (TimedLook.ofRun environment look world).answer = none) :
    (pollUntil positive limit tooLate look).run environment world =
      (goOn positive limit tooLate look none).run environment
        (TimedLook.ofRun environment look world).settled := by
  rw [pollUntil_eq, Plan.run_bind, run_lookOnce uncancelled]
  simp [undecided]

/-- A cancellation before the next look ends the wait. -/
theorem run_goOn_interrupted {moment : Duration}
    (cancels : world.cancelMoment? environment = some moment)
    (before_look : moment ≤ world.clock + interval) (in_time : moment ≤ world.clock + limit) :
    (goOn positive limit tooLate look none).run environment world =
      (.error .cancelled, { world with clock := moment }.cancel) := by
  dsimp only [goOn]
  split
  · exact Plan.run_pause_bind_interrupted cancels before_look
  · exact Plan.run_pause_bind_interrupted cancels in_time

/-- The limit ends the wait if it comes before the next look. -/
theorem run_goOn_expired (last : limit < interval)
    (later : ∀ moment ∈ world.cancelMoment? environment, world.clock + limit < moment) :
    (goOn positive limit tooLate look none).run environment world =
      (.error tooLate, { world with clock := world.clock + limit }) := by
  rw [goOn, if_neg (Nat.not_le_of_lt last)]
  exact Plan.run_pause_bind_passed later

/-- Otherwise the wait starts anew with what is left of its limit. -/
theorem run_goOn_again (again : interval ≤ limit)
    (later : ∀ moment ∈ world.cancelMoment? environment, world.clock + interval < moment) :
    (goOn positive limit tooLate look none).run environment world =
      (pollUntil positive (limit - interval) tooLate look).run environment
        { world with clock := world.clock + interval } := by
  rw [goOn, if_pos again]
  exact Plan.run_pause_bind_passed later

end Steps

/-! ## Schedules -/

section Schedules

variable {environment : Environment σ} {interval limit : Duration} {tooLate : Failure}
  {look : Plan (Option α)} {start final : World σ} {looks : List (TimedLook σ α)}
  {result : Except Failure α}

theorem Schedule.of_cancelled (cancelled : start.cancelled = true) :
    Schedule environment interval limit tooLate look start [] (.error .cancelled) start := by
  constructor
  · simp
  · simp
  · simp
  · simp
  · exact .nil
  · exact .unbegun cancelled rfl

/-- A schedule with a single look. -/
theorem Schedule.single (uncancelled : start.cancelled = false)
    (ending : WaitEnding environment interval limit tooLate start
      [.ofRun environment look start] result final) :
    Schedule environment interval limit tooLate look start [.ofRun environment look start]
      result final := by
  constructor
  · simp [TimedLook.ofRun]
  · simpa [TimedLook.ofRun] using uncancelled
  · simp [TimedLook.ofRun]
  · intro index timed timed_eq
    rcases index with _ | index
    · cases timed_eq
      simp [TimedLook.ofRun]
    · simp at timed_eq
  · exact .singleton _
  · exact ending

theorem Schedule.of_nil
    (schedule : Schedule environment interval limit tooLate look start [] result final) :
    start.cancelled = true ∧ result = .error .cancelled ∧ final = start := by
  cases schedule.ending with
  | unbegun cancelled => exact ⟨cancelled, rfl, rfl⟩
  | decided last_eq | cancelled last_eq | expired last_eq => cases last_eq

/-- A wait looks at least once if the token is not cancelled at the start. -/
theorem Schedule.looked
    (schedule : Schedule environment interval limit tooLate look start looks result final)
    (uncancelled : start.cancelled = false) : ∃ first rest, looks = first :: rest := by
  cases looks with
  | nil =>
      have cancelled := schedule.of_nil.1
      simp [uncancelled] at cancelled
  | cons first rest => exact ⟨first, rest, rfl⟩

/-- How a wait ends goes by its last look, by its deadline and by whether it made all its looks. -/
theorem WaitEnding.congr {began : World σ} {others : List (TimedLook σ α)} {remaining : Duration}
    (ending : WaitEnding environment interval limit tooLate start looks result final)
    (looked : looks ≠ []) (last : others.getLast? = looks.getLast?)
    (deadline : start.clock + limit = began.clock + remaining)
    (counts : looks.length = limit / interval + 1 → others.length = remaining / interval + 1) :
    WaitEnding environment interval remaining tooLate began others result final := by
  cases ending with
  | unbegun _ unlooked => exact absurd unlooked looked
  | decided last_eq decisive => exact .decided (last.trans last_eq) decisive
  | cancelled last_eq undecided cancels before_look in_time =>
      rw [deadline] at in_time
      exact .cancelled (last.trans last_eq) undecided cancels before_look in_time
  | expired last_eq undecided uncancelled count =>
      rw [deadline] at uncancelled ⊢
      exact .expired (last.trans last_eq) undecided uncancelled (counts count)

/-- After an interval a wait ends as one that begins there with the time that remains. -/
theorem waitEnding_cons_iff {timed next : TimedLook σ α} {rest : List (TimedLook σ α)}
    {after : World σ} (positive : 0 < interval) (again : interval ≤ limit)
    (passed : after.clock = start.clock + interval) :
    WaitEnding environment interval limit tooLate start (timed :: next :: rest) result final ↔
      WaitEnding environment interval (limit - interval) tooLate after (next :: rest) result
        final := by
  have deadline : start.clock + limit = after.clock + (limit - interval) := by
    rw [passed, Nat.add_assoc, Nat.add_sub_of_le again]
  have counts : (timed :: next :: rest).length = limit / interval + 1 ↔
      (next :: rest).length = (limit - interval) / interval + 1 := by
    rw [Nat.div_eq_sub_div positive again, List.length_cons, Nat.add_right_cancel_iff]
  have last : (next :: rest).getLast? = (timed :: next :: rest).getLast? :=
    List.getLast?_cons_cons.symm
  constructor
  · intro ending
    exact ending.congr (List.cons_ne_nil _ _) last deadline counts.mp
  · intro ending
    exact ending.congr (List.cons_ne_nil _ _) last.symm deadline.symm counts.mpr

section Second

variable {timed next : TimedLook σ α} {rest : List (TimedLook σ α)}

/-- The second look of a schedule is made an interval after the first one, which decided nothing. -/
theorem Schedule.second (schedule : Schedule environment interval limit tooLate look start
    (timed :: next :: rest) result final) :
    interval ≤ limit ∧ decision? timed.answer = none ∧
      (∀ moment ∈ timed.settled.cancelMoment? environment, start.clock + interval < moment) ∧
      next.due = { timed.settled with clock := start.clock + interval } := by
  rcases List.isChain_cons_cons.mp schedule.postponed with ⟨⟨undecided, later, next_due⟩, -⟩
  rcases schedule.times 1 next rfl with ⟨next_clock, again⟩
  rw [Nat.one_mul] at next_clock again
  rw [next_clock] at later next_due
  exact ⟨again, undecided, later, next_due⟩

/-- From its second look on a schedule is one with the time that remains. -/
theorem Schedule.tail (schedule : Schedule environment interval limit tooLate look start
    (timed :: next :: rest) result final) (positive : 0 < interval) :
    Schedule environment interval (limit - interval) tooLate look
      { timed.settled with clock := start.clock + interval } (next :: rest) result final := by
  rcases schedule.second with ⟨again, -, -, next_due⟩
  constructor
  · exact fun other other_mem => schedule.made other (List.mem_cons_of_mem _ other_mem)
  · exact fun other other_mem => schedule.uncancelled other (List.mem_cons_of_mem _ other_mem)
  · intro other other_eq
    cases other_eq
    exact next_due
  · intro index other other_eq
    rcases schedule.times (index + 1) other other_eq with ⟨clock, in_time⟩
    rw [Nat.succ_mul] at clock in_time
    refine ⟨?_, Nat.le_sub_of_add_le in_time⟩
    change _ = start.clock + interval + index * interval
    rw [clock, Nat.add_assoc, Nat.add_comm interval]
  · exact (List.isChain_cons_cons.mp schedule.postponed).2
  · exact (waitEnding_cons_iff positive again rfl).mp schedule.ending

/-- A look that decides nothing may stand an interval before a schedule. -/
theorem Schedule.cons (timed_eq : timed = .ofRun environment look start)
    (schedule : Schedule environment interval (limit - interval) tooLate look
      { timed.settled with clock := start.clock + interval } (next :: rest) result final)
    (positive : 0 < interval) (again : interval ≤ limit) (uncancelled : start.cancelled = false)
    (undecided : decision? timed.answer = none)
    (later : ∀ moment ∈ timed.settled.cancelMoment? environment,
      start.clock + interval < moment) :
    Schedule environment interval limit tooLate look start (timed :: next :: rest) result
      final := by
  have next_due := schedule.first next rfl
  have due_eq : timed.due = start := by rw [timed_eq]; rfl
  constructor
  · refine List.forall_mem_cons.mpr ⟨?_, schedule.made⟩
    rw [due_eq]
    exact timed_eq
  · refine List.forall_mem_cons.mpr ⟨?_, schedule.uncancelled⟩
    rw [due_eq]
    exact uncancelled
  · intro other other_eq
    cases other_eq
    exact due_eq
  · intro index other other_eq
    rcases index with _ | index
    · cases other_eq
      simp [due_eq]
    · rcases schedule.times index other other_eq with ⟨clock, in_time⟩
      rw [Nat.succ_mul]
      refine ⟨?_, Nat.add_le_of_le_sub again in_time⟩
      change _ = start.clock + interval + index * interval at clock
      rw [clock, Nat.add_assoc, Nat.add_comm interval]
  · rw [List.isChain_cons_cons, next_due]
    exact ⟨⟨undecided, later, rfl⟩, schedule.postponed⟩
  · exact (waitEnding_cons_iff positive again rfl).mpr schedule.ending

/-- A schedule with a second look goes on from there as a schedule with the time that remains. -/
theorem schedule_cons_iff (positive : 0 < interval) :
    Schedule environment interval limit tooLate look start (timed :: next :: rest) result final ↔
      timed = .ofRun environment look start ∧ start.cancelled = false ∧
        interval ≤ limit ∧ decision? timed.answer = none ∧
        (∀ moment ∈ timed.settled.cancelMoment? environment, start.clock + interval < moment) ∧
        Schedule environment interval (limit - interval) tooLate look
          { timed.settled with clock := start.clock + interval } (next :: rest) result final := by
  constructor
  · intro schedule
    have due_eq : timed.due = start := schedule.first timed rfl
    rcases schedule.second with ⟨again, undecided, later, -⟩
    refine ⟨?_, ?_, again, undecided, later, schedule.tail positive⟩
    · rw [← due_eq]
      exact schedule.made timed List.mem_cons_self
    · rw [← due_eq]
      exact schedule.uncancelled timed List.mem_cons_self
  · rintro ⟨timed_eq, uncancelled, again, undecided, later, schedule⟩
    exact schedule.cons timed_eq positive again uncancelled undecided later

end Second

end Schedules

/-! ## The runs of a wait -/

theorem Plan.Spends.instant {environment : Environment σ} {plan : Plan α} {looks others : Nat}
    (spends : plan.Spends environment 0 looks others) (world : World σ) :
    (plan.run environment world).2.clock = world.clock :=
  Nat.le_antisymm (spends world).inTime (spends world).later

section Runs

variable {environment : Environment σ} {interval limit : Duration} {tooLate : Failure}
  {look : Plan (Option α)} {start final : World σ} {looks : List (TimedLook σ α)}
  {result : Except Failure α}

/-- The wait goes on after a look that decided nothing, if it goes on by a schedule later. -/
theorem exists_schedule_of_undecided (positive : 0 < interval)
    (instant : ∀ world, (look.run environment world).2.clock = world.clock)
    (uncancelled : start.cancelled = false)
    (undecided : decision? (TimedLook.ofRun environment look start).answer = none)
    (ran : (pollUntil positive limit tooLate look).run environment start = (result, final))
    (goesOn : ∀ after : World σ, interval ≤ limit →
      (pollUntil positive (limit - interval) tooLate look).run environment after =
        (result, final) →
      ∃ looks, Schedule environment interval (limit - interval) tooLate look after looks result
        final) :
    ∃ looks, Schedule environment interval limit tooLate look start looks result final := by
  let timed : TimedLook σ α := .ofRun environment look start
  have clock_eq : timed.settled.clock = start.clock := TimedLook.clock_settled instant start
  rw [run_pollUntil_of_undecided positive uncancelled undecided] at ran
  change (goOn positive limit tooLate look none).run environment timed.settled = _ at ran
  rcases timed.settled.pause_cases environment interval limit with
    ⟨moment, cancels, before_look, in_time⟩ | ⟨again, later⟩ | ⟨less, later⟩
  · rw [run_goOn_interrupted cancels before_look in_time] at ran
    cases ran
    rw [clock_eq] at before_look in_time
    exact ⟨[timed], .single uncancelled (.cancelled rfl undecided cancels before_look in_time)⟩
  · rw [run_goOn_again again later, clock_eq] at ran
    have free : timed.settled.cancelled = false :=
      World.uncancelled_of_later later (Nat.le_add_right _ _)
    rcases goesOn _ again ran with ⟨looks, schedule⟩
    rcases schedule.looked free with ⟨next, rest, rfl⟩
    rw [clock_eq] at later
    exact ⟨timed :: next :: rest, (schedule_cons_iff positive).mpr
      ⟨rfl, uncancelled, again, undecided, later, schedule⟩⟩
  · rw [run_goOn_expired less later, clock_eq] at ran
    cases ran
    rw [clock_eq] at later
    refine ⟨[timed], .single uncancelled (.expired rfl undecided later ?_)⟩
    rw [Nat.div_eq_of_lt less]
    rfl

/-- Every wait follows a schedule. -/
theorem exists_schedule (positive : 0 < interval)
    (instant : ∀ world, (look.run environment world).2.clock = world.clock)
    (ran : (pollUntil positive limit tooLate look).run environment start = (result, final)) :
    ∃ looks, Schedule environment interval limit tooLate look start looks result final := by
  -- the induction is on the time that remains: after a pause the wait is one with a shorter limit
  induction limit using Duration.induct positive generalizing start with
  | step limit ih =>
      cases token : start.cancelled with
      | true =>
          rw [run_pollUntil_of_cancelled positive token] at ran
          cases ran
          exact ⟨[], .of_cancelled token⟩
      | false =>
          cases decided : decision? (TimedLook.ofRun environment look start).answer with
          | some decision =>
              rw [run_pollUntil_of_decided positive token decided] at ran
              cases ran
              exact ⟨[.ofRun environment look start], .single token (.decided rfl decided)⟩
          | none =>
              apply exists_schedule_of_undecided positive instant token decided ran
              intro after again goneOn
              exact ih again goneOn

/-- A schedule with a single look is the run of a wait. -/
theorem Schedule.run_single {timed : TimedLook σ α} (positive : 0 < interval)
    (instant : ∀ world, (look.run environment world).2.clock = world.clock)
    (schedule : Schedule environment interval limit tooLate look start [timed] result final) :
    (pollUntil positive limit tooLate look).run environment start = (result, final) := by
  have due_eq : timed.due = start := schedule.first timed rfl
  have timed_eq := schedule.made timed (by simp)
  have uncancelled := schedule.uncancelled timed (by simp)
  rw [due_eq] at timed_eq uncancelled
  subst timed_eq
  have clock_eq := TimedLook.clock_settled instant start
  have last_of_eq : ∀ last, [TimedLook.ofRun environment look start].getLast? = some last →
      TimedLook.ofRun environment look start = last := by simp
  cases schedule.ending with
  | unbegun _ unlooked => cases unlooked
  | decided last_eq decisive =>
      cases last_of_eq _ last_eq
      exact run_pollUntil_of_decided positive uncancelled decisive
  | cancelled last_eq undecided cancels before_look in_time =>
      cases last_of_eq _ last_eq
      rw [run_pollUntil_of_undecided positive uncancelled undecided]
      exact run_goOn_interrupted cancels (by rwa [clock_eq]) (by rwa [clock_eq])
  | expired last_eq undecided later count =>
      cases last_of_eq _ last_eq
      have less : limit < interval :=
        Nat.lt_of_div_eq_zero positive (Nat.succ.inj count).symm
      rw [run_pollUntil_of_undecided positive uncancelled undecided,
        run_goOn_expired less (by rwa [clock_eq]), clock_eq]

/-- What follows a schedule of a wait is how the wait goes. -/
theorem Schedule.run_eq (positive : 0 < interval)
    (instant : ∀ world, (look.run environment world).2.clock = world.clock)
    (schedule : Schedule environment interval limit tooLate look start looks result final) :
    (pollUntil positive limit tooLate look).run environment start = (result, final) := by
  induction looks generalizing start limit with
  | nil =>
      rcases schedule.of_nil with ⟨cancelled, rfl, rfl⟩
      exact run_pollUntil_of_cancelled positive cancelled
  | cons timed rest ih =>
      cases rest with
      | nil => exact schedule.run_single positive instant
      | cons next rest =>
          rcases (schedule_cons_iff positive).mp schedule with
            ⟨rfl, uncancelled, again, undecided, later, schedule⟩
          have clock_eq := TimedLook.clock_settled instant start
          rw [run_pollUntil_of_undecided positive uncancelled undecided,
            run_goOn_again again (by rwa [clock_eq]), clock_eq]
          exact ih schedule

/-- A wait whose looks take no time runs by a schedule, and every schedule is such a run. -/
theorem run_pollUntil_iff (positive : 0 < interval)
    (instant : ∀ world, (look.run environment world).2.clock = world.clock) :
    (pollUntil positive limit tooLate look).run environment start = (result, final) ↔
      ∃ looks, Schedule environment interval limit tooLate look start looks result final := by
  constructor
  · exact exists_schedule positive instant
  · rintro ⟨looks, schedule⟩
    exact schedule.run_eq positive instant

end Runs

/-- A cluster whose pod is pending at first, then cannot be read and has succeeded at last. The look
that finds this cancels the token. -/
def Environment.belated : Environment Unit :=
  { respond := fun _ call clock state =>
      match call, clock with
      | .podState _ _, 0 => ({ result := .ok (.pending none), cancels := false }, state)
      | .podState _ _, 1 => ({ result := .error (.api .unreachable), cancels := false }, state)
      | .podState _ _, _ => ({ result := .ok .succeeded, cancels := true }, state)
      | _, _ => ({ result := .error .cancelled, cancels := false }, state)
    cancelTime := none }

/-- The look that is due at the limit decides, although the token is cancelled meanwhile. -/
theorem run_pollUntil_iff_belated :
    let look := lookAtPod ⟨0⟩ { kind := .pod, ns := "apps", name := "rsync" }
      (completedVerdict "rsync")
    let tooLate := Failure.transfer "rsync" "did not finish within 2ns"
    let final := ((pollUntil Nat.one_pos 2 tooLate look).run .belated (World.start ())).2
    final.clock = 2 ∧ final.cancelled = true ∧
      ∃ looks, Schedule .belated 1 2 tooLate look (World.start ()) looks (.ok ()) final := by
  intro look tooLate final
  have instant : ∀ world, (look.run .belated world).2.clock = world.clock :=
    (spends_lookAtPod _ _ _).instant
  refine ⟨by decide +kernel, by decide +kernel, (run_pollUntil_iff Nat.one_pos instant).mp ?_⟩
  exact Prod.ext (by decide +kernel) rfl

end VolumeMigration
