import VolumeMigration.Time.Duration

/-!
# Instants

An instant is a number of seconds since the beginning of 1970 in universal time, with nanoseconds
beyond. `Instant.text` writes date and time joined by `T`, with the fewest of 0, 3, 6 or 9 fraction
digits that are exact. Dates follow the proleptic Gregorian calendar: `CivilDate.ofDays` counts
in eras of 400 years that begin on the first of March, so that a leap day ends its year.
-/

namespace VolumeMigration

/-- A date of the proleptic Gregorian calendar. -/
structure CivilDate where
  year : Int
  month : Nat
  day : Nat
  deriving DecidableEq

namespace CivilDate

/-- The date that lies a number of days after the first of January 1970. -/
def ofDays (days : Int) : CivilDate :=
  let shifted := days + 719468
  let era := shifted / 146097
  let dayOfEra := (shifted % 146097).toNat
  let yearOfEra :=
    (dayOfEra - dayOfEra / 1460 + dayOfEra / 36524 - dayOfEra / 146096) / 365
  let dayOfYear := dayOfEra - (365 * yearOfEra + yearOfEra / 4 - yearOfEra / 100)
  let monthIndex := (5 * dayOfYear + 2) / 153
  let day := dayOfYear - (153 * monthIndex + 2) / 5 + 1
  let month := if monthIndex < 10 then monthIndex + 3 else monthIndex - 9
  let year := (yearOfEra : Int) + era * 400 + if month ≤ 2 then 1 else 0
  { year, month, day }

/-- The number of days from the first of January 1970 to a date. -/
def days (date : CivilDate) : Int :=
  let year := if date.month ≤ 2 then date.year - 1 else date.year
  let monthIndex := if date.month ≤ 2 then date.month + 9 else date.month - 3
  let yearOfEra := year % 400
  let dayOfYear : Nat := (153 * monthIndex + 2) / 5 + date.day - 1
  let dayOfEra := yearOfEra * 365 + yearOfEra / 4 - yearOfEra / 100 + dayOfYear
  year / 400 * 146097 + dayOfEra - 719468

/-- A leap day comes before the first of March. -/
example : ofDays (days ⟨2024, 2, 29⟩ + 1) = ⟨2024, 3, 1⟩ := by decide

/-- A number with leading zeros up to a width. -/
def padded (width number : Nat) : String :=
  String.ofList (Duration.paddedDigits width number)

/-- A year: four digits from 0 to 9999, otherwise with its sign. -/
def yearText (year : Int) : String :=
  if 0 ≤ year ∧ year ≤ 9999 then padded 4 year.toNat
  else (if year < 0 then "-" else "+") ++ padded 4 year.natAbs

/-- A date as year, month and day joined by hyphens. -/
def text (date : CivilDate) : String :=
  yearText date.year ++ "-" ++ padded 2 date.month ++ "-" ++ padded 2 date.day

end CivilDate

/-- A point in universal time. -/
structure Instant where
  /-- Seconds since the beginning of 1970. -/
  seconds : Int
  /-- Nanoseconds beyond the seconds. -/
  nanos : Nat
  deriving DecidableEq

namespace Instant

/-- The instant from which times are counted. -/
def epoch : Instant := ⟨0, 0⟩

/-- The instant that follows another after a duration. -/
def after (start : Instant) (elapsed : Duration) : Instant :=
  let nanos := start.nanos + elapsed
  ⟨start.seconds + (nanos / 1000000000 : Nat), nanos % 1000000000⟩

/-- The time of day in hours, minutes and seconds. -/
def timeOfDayText (second : Nat) : String :=
  CivilDate.padded 2 (second / 3600) ++ ":" ++ CivilDate.padded 2 (second / 60 % 60) ++ ":" ++
    CivilDate.padded 2 (second % 60)

/-- The fraction of a second in 0, 3, 6 or 9 digits. -/
def fractionText (nanos : Nat) : String :=
  if nanos = 0 then ""
  else if nanos % 1000000 = 0 then "." ++ CivilDate.padded 3 (nanos / 1000000)
  else if nanos % 1000 = 0 then "." ++ CivilDate.padded 6 (nanos / 1000)
  else "." ++ CivilDate.padded 9 nanos

/-- An instant as date and time, with `Z` for universal time. -/
def text (instant : Instant) : String :=
  (CivilDate.ofDays (instant.seconds / 86400)).text ++ "T" ++
    timeOfDayText (instant.seconds % 86400).toNat ++ fractionText instant.nanos ++ "Z"

end Instant

end VolumeMigration
