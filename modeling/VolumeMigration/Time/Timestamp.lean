import VolumeMigration.Numeral.Basic
import VolumeMigration.Text.Blank
import VolumeMigration.Time.Instant

/-!
# Timestamps

A timestamp is a date and a time of day, joined by `T` or a blank, with the offset from universal
time behind them. Blanks may stand between the parts, and a fraction of a second may be given, which
is left out. `Timestamp.parse?` reads a text that names a day of the calendar, and
`Timestamp.universalText` writes a timestamp in universal time.
-/

namespace VolumeMigration

/-- A date and a time of day. -/
structure Timestamp where
  date : CivilDate
  hour : Nat
  minute : Nat
  /-- The second, which is 60 at the end of a minute with a leap second. -/
  second : Nat
  /-- By how many minutes the time is ahead of universal time. -/
  offset : Int
  deriving DecidableEq

namespace Timestamp

/-- Characters without the blanks at their start. -/
def skipBlanks (chars : List Char) : List Char :=
  chars.dropWhile Text.isBlank

/-- A number of at most some digits at the start of some characters, and what follows it. -/
def number? (width : Nat) (chars : List Char) : Option (Nat × List Char) :=
  let digits := (chars.takeWhile Char.isDigit).take width
  if digits.isEmpty then none else some (Numeral.ofDigits digits, chars.drop digits.length)

/-- A number of some digits, behind blanks. -/
def part? (width : Nat) (chars : List Char) : Option (Nat × List Char) :=
  number? width (skipBlanks chars)

/-- What follows a character that may stand behind blanks. -/
def mark? (char : Char) (chars : List Char) : Option (List Char) :=
  match skipBlanks chars with
  | first :: rest => if first == char then some rest else none
  | [] => none

/-- A year, which has four digits at most unless it has a sign. -/
def year? (chars : List Char) : Option (Int × List Char) :=
  match skipBlanks chars with
  | '-' :: rest => (number? rest.length rest).map fun found => (-(found.1 : Int), found.2)
  | '+' :: rest => (number? rest.length rest).map fun found => (Int.ofNat found.1, found.2)
  | rest => (number? 4 rest).map fun found => (Int.ofNat found.1, found.2)

/-- The largest year, before or after the epoch, that a date can have. -/
def yearLimit : Int := 262142

/-- The number of days of a month; no other month has days. -/
def daysOfMonth (year : Int) (month : Nat) : Nat :=
  let isLeap : Bool := year % 4 = 0 && (year % 100 ≠ 0 || year % 400 = 0)
  if month = 2 then if isLeap then 29 else 28
  else if [4, 6, 9, 11].contains month then 30
  else if 1 ≤ month ∧ month ≤ 12 then 31
  else 0

/-- A date that is in the calendar. -/
def date? (chars : List Char) : Option (CivilDate × List Char) := do
  let (year, rest) ← year? chars
  let (month, rest) ← part? 2 (← mark? '-' rest)
  let (day, rest) ← part? 2 (← mark? '-' rest)
  if -yearLimit ≤ year && year ≤ yearLimit && 0 < day && day ≤ daysOfMonth year month then
    some (⟨year, month, day⟩, rest)
  else none

/-- What follows a fraction of a second, if there is one. -/
def fraction? (chars : List Char) : Option (List Char) :=
  match chars with
  | '.' :: rest =>
      if rest.head?.any Char.isDigit then some (rest.dropWhile Char.isDigit) else none
  | rest => some rest

/-- Hour, minute and second of a time of day, and what follows it. A minute may have a leap second
at its end. -/
def time? (chars : List Char) : Option ((Nat × Nat × Nat) × List Char) := do
  let (hour, rest) ← part? 2 chars
  let (minute, rest) ← part? 2 (← mark? ':' rest)
  let (second, rest) ← part? 2 (← mark? ':' rest)
  if hour < 24 && minute < 60 && second ≤ 60 then
    return ((hour, minute, second), ← fraction? rest)
  else none

/-- Two digits at the start of some characters, and what follows them. -/
def twoDigits? (chars : List Char) : Option (Nat × List Char) :=
  match chars with
  | first :: second :: rest =>
      if first.isDigit && second.isDigit then some (Numeral.ofDigits [first, second], rest)
      else none
  | _ => none

/-- Hours and minutes, which together are less than a day, in minutes, and what follows them. -/
def hoursAndMinutes? (chars : List Char) : Option (Nat × List Char) := do
  let (hours, rest) ← twoDigits? chars
  let (minutes, rest) ←
    twoDigits? (rest.dropWhile fun char => char == ':' || Text.isBlank char)
  if hours < 24 && minutes < 60 then some (hours * 60 + minutes, rest) else none

/-- An offset from universal time, and what follows it: the name or the letter of that time, or a
sign with hours and minutes. -/
def offset? (chars : List Char) : Option (Int × List Char) :=
  if String.ofList ((chars.take 3).map Char.toUpper) = "UTC" then some (0, chars.drop 3)
  else
    match chars with
    | [] => none
    | sign :: rest =>
        if sign == 'Z' || sign == 'z' then some (0, rest)
        else if sign == '+' then
          (hoursAndMinutes? rest).map fun found => (Int.ofNat found.1, found.2)
        else if sign == '-' || sign == '\u2212' then
          (hoursAndMinutes? rest).map fun found => (Int.neg found.1, found.2)
        else none

/-- What stands behind the joint between date and time. -/
def joined? (chars : List Char) : Option (List Char) :=
  match chars with
  | 'T' :: rest | 't' :: rest | ' ' :: rest => some rest
  | _ => none

/-- The time that a text writes, with its offset. -/
def parse? (text : String) : Option Timestamp := do
  let (date, rest) ← date? text.toList
  let ((hour, minute, second), rest) ← time? (← joined? rest)
  let (offset, rest) ← offset? (skipBlanks rest)
  if (skipBlanks rest).isEmpty then some { date, hour, minute, second, offset } else none

/-- The time without an offset, which is what two ways of writing it share. -/
def universalText (stamp : Timestamp) : String :=
  let minutes := stamp.date.days * 1440 + Int.ofNat (stamp.hour * 60 + stamp.minute) - stamp.offset
  let minuteOfDay := (minutes % 1440).toNat
  (CivilDate.ofDays (minutes / 1440)).text ++ "T" ++ CivilDate.padded 2 (minuteOfDay / 60) ++ ":" ++
    CivilDate.padded 2 (minuteOfDay % 60) ++ ":" ++ CivilDate.padded 2 stamp.second ++ "Z"

end Timestamp

end VolumeMigration
