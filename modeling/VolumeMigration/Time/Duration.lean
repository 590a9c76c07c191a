/-!
# Durations

A duration is a number of nanoseconds. `Duration.text` writes it in the largest of the units
second, millisecond, microsecond and nanosecond in which it is at least one, followed by the
fraction without trailing zeros.
-/

namespace VolumeMigration

/-- A span of time in nanoseconds. -/
abbrev Duration := Nat

namespace Duration

/-- What holds of a duration if it holds of what an interval leaves of it holds of every one. -/
theorem induct {interval : Duration} (positive : 0 < interval) {motive : Duration → Prop}
    (step : ∀ limit, (interval ≤ limit → motive (limit - interval)) → motive limit)
    (limit : Duration) : motive limit := by
  induction limit using Nat.strongRecOn with
  | ind limit ih =>
      apply step
      intro again
      exact ih (limit - interval) (Nat.sub_lt (Nat.lt_of_lt_of_le positive again) positive)

/-- The duration of a number of seconds. -/
def ofSeconds (count : Nat) : Duration := count * 1000000000

/-- The duration of a number of milliseconds. -/
def ofMillis (count : Nat) : Duration := count * 1000000

/-- The seconds of a duration, rounded down. -/
def wholeSeconds (duration : Duration) : Nat := duration / 1000000000

/-- The nanoseconds of a duration beyond its whole seconds. -/
def subsecNanos (duration : Duration) : Nat := duration % 1000000000

/-- The milliseconds of a duration, rounded down. -/
def wholeMillis (duration : Duration) : Nat := duration / 1000000

/-- The decimal digits of a number, with leading zeros up to a width. -/
def paddedDigits (width number : Nat) : List Char :=
  let digits := Nat.toDigits 10 number
  List.replicate (width - digits.length) '0' ++ digits

/-- A decimal fraction of `width` digits after its point, without trailing zeros; nothing for
zero. -/
def fraction (width number : Nat) : String :=
  if number = 0 then ""
  else
    "." ++ String.ofList ((paddedDigits width number).reverse.dropWhile (· == '0')).reverse

/-- A duration in a unit of `10 ^ width` nanoseconds. -/
def inUnit (width : Nat) (name : String) (duration : Duration) : String :=
  toString (duration / Nat.pow 10 width) ++ fraction width (duration % Nat.pow 10 width) ++ name

/-- A duration in its largest fitting unit. -/
def text (duration : Duration) : String :=
  if 1000000000 ≤ duration then inUnit 9 "s" duration
  else if 1000000 ≤ duration then inUnit 6 "ms" duration
  else if 1000 ≤ duration then inUnit 3 "µs" duration
  else inUnit 0 "ns" duration

end Duration

end VolumeMigration
