/-!
# Instants and the calendar

Vendors name the time of a reset either by a timestamp text or by a count of seconds.  A
timestamp text counts as an instant only in the internet format (`Instant.ofText?`).  A count of
seconds leads to a time in the years that this calendar covers, from the start of 1970
(`Calendar.time?`) or from another such time (`Calendar.later?`), and is shown as a label in UTC.
-/

namespace QuotaBoard

/-! ## The calendar -/

namespace Calendar

/-- Whether a year has a 29th of February. -/
def isLeap (year : Int) : Bool :=
  year % 4 = 0 && (year % 100 ≠ 0 || year % 400 = 0)

/-- The number of days of a month. -/
def daysInMonth (year : Int) (month : Nat) : Nat :=
  if month = 2 then (if isLeap year then 29 else 28)
  else if month = 4 ∨ month = 6 ∨ month = 9 ∨ month = 11 then 30
  else 31

/-- Days from 1 January 1970 to a date of the Gregorian calendar.  Years are counted from March,
so that a leap day is the last day of its year. -/
def dayNumber (year : Int) (month day : Nat) : Int :=
  let y := if month ≤ 2 then year - 1 else year
  let era := y / 400
  let yearOfEra := y % 400
  let monthFromMarch : Int := (month + 9) % 12
  let dayOfYear := (153 * monthFromMarch + 2) / 5 + day - 1
  let dayOfEra := yearOfEra * 365 + yearOfEra / 4 - yearOfEra / 100 + dayOfYear
  era * 146097 + dayOfEra - 719468

/-- The month and the day of a day counted from 1 January 1970. -/
def monthAndDay (number : Int) : Nat × Nat :=
  let dayOfEra := (number + 719468) % 146097
  let yearOfEra := (dayOfEra - dayOfEra / 1460 + dayOfEra / 36524 - dayOfEra / 146096) / 365
  let dayOfYear := dayOfEra - (365 * yearOfEra + yearOfEra / 4 - yearOfEra / 100)
  let monthFromMarch := (5 * dayOfYear + 2) / 153
  let day := dayOfYear - (153 * monthFromMarch + 2) / 5 + 1
  let month := if monthFromMarch < 10 then monthFromMarch + 3 else monthFromMarch - 9
  (month.toNat, day.toNat)

/-- The first day of the years covered. -/
def firstDay : Int := dayNumber (-262143) 1 1

/-- The last day of the years covered. -/
def lastDay : Int := dayNumber 262142 12 31

/-- The first second of the years covered. -/
def firstSecond : Int := firstDay * 86400

/-- The last second of the years covered. -/
def lastSecond : Int := (lastDay + 1) * 86400 - 1

/-- Whether a second lies in the years covered. -/
def covers (second : Int) : Bool := firstSecond ≤ second && second ≤ lastSecond

/-- The time of a timestamp in seconds, if it lies in the years covered. -/
def time? (second : Int) : Option Int := if covers second then some second else none

/-- A span of so many seconds, if its milliseconds fit 64 bits. -/
def span? (seconds : Int) : Option Int :=
  if -0x7fffffffffffffff ≤ seconds * 1000 ∧ seconds * 1000 ≤ 0x7fffffffffffffff then some seconds
  else none

/-- The time that is a span later than another one.  The time of day is moved on, and the whole days
that this makes are added to the date, which must be one of the years covered. -/
def later? (time span : Int) : Option Int :=
  let timeOfDay := time % 86400 + span
  let day := time / 86400 + timeOfDay / 86400
  if firstDay ≤ day ∧ day ≤ lastDay then some (day * 86400 + timeOfDay % 86400) else none

/-- A number below a hundred with two digits. -/
def twoDigits (n : Nat) : String :=
  String.ofList [Char.ofNat (48 + n / 10 % 10), Char.ofNat (48 + n % 10)]

/-- Month, day, hour and minute of a second, in UTC. -/
def label (second : Int) : String :=
  let (month, day) := monthAndDay (second / 86400)
  let minutes := (second % 86400 / 60).toNat
  twoDigits month ++ "/" ++ twoDigits day ++ " " ++ twoDigits (minutes / 60) ++ ":" ++
    twoDigits (minutes % 60)

end Calendar

/-! ## Instants -/

/-- A point in time.  A leap second is told from the second before it by `nanos` beyond a
thousand million. -/
structure Instant where
  seconds : Int
  nanos : Nat
deriving DecidableEq

namespace Instant

/-- Whether one instant comes before another. -/
def before (a b : Instant) : Bool :=
  a.seconds < b.seconds || (a.seconds = b.seconds && a.nanos < b.nanos)

/-- The value of exactly `count` digits at the start of a text, and what follows them. -/
def readDigits? (count : Nat) (cs : List Char) : Option (Nat × List Char) :=
  let digits := cs.take count
  if digits.length = count ∧ digits.all Char.isDigit then
    some (digits.foldl (fun n c => 10 * n + (c.toNat - 48)) 0, cs.drop count)
  else none

/-- What follows a given character. -/
def expect? (c : Char) : List Char → Option (List Char)
  | d :: rest => if d = c then some rest else none
  | [] => none

/-- Nanoseconds after a point, to nine places; further digits are cut off. -/
def readFraction? : List Char → Option (Nat × List Char)
  | '.' :: cs =>
    let digits := cs.takeWhile Char.isDigit
    if digits.isEmpty then none
    else
      let kept := (digits ++ List.replicate 9 '0').take 9
      some (kept.foldl (fun n c => 10 * n + (c.toNat - 48)) 0, cs.dropWhile Char.isDigit)
  | cs => some (0, cs)

/-- A zone as seconds east of UTC: `Z`, or a sign, hours up to 23, a colon and minutes. -/
def readZone? : List Char → Option (Int × List Char)
  | 'Z' :: rest | 'z' :: rest => some (0, rest)
  | sign :: rest => do
    guard (sign = '+' ∨ sign = '-' ∨ sign = '\u2212')
    let (hours, rest) ← readDigits? 2 rest
    let rest ← expect? ':' rest
    let (minutes, rest) ← readDigits? 2 rest
    guard (hours < 24 ∧ minutes < 60)
    let offset : Int := hours * 3600 + minutes * 60
    some (if sign = '+' then offset else -offset, rest)
  | [] => none

/-- The instant that a text names in the internet date-time format: date, `T` or a space, time
with an optional fraction, zone.  The sixtieth second of a minute is a leap second. -/
def ofChars? (cs : List Char) : Option Instant := do
  let (year, cs) ← readDigits? 4 cs
  let cs ← expect? '-' cs
  let (month, cs) ← readDigits? 2 cs
  let cs ← expect? '-' cs
  let (day, cs) ← readDigits? 2 cs
  let cs ← match cs with
    | 'T' :: rest | 't' :: rest | ' ' :: rest => some rest
    | _ => none
  let (hour, cs) ← readDigits? 2 cs
  let cs ← expect? ':' cs
  let (minute, cs) ← readDigits? 2 cs
  let cs ← expect? ':' cs
  let (second, cs) ← readDigits? 2 cs
  let (nanos, cs) ← readFraction? cs
  let (offset, cs) ← readZone? cs
  guard cs.isEmpty
  guard (1 ≤ month ∧ month ≤ 12 ∧ 1 ≤ day ∧ day ≤ Calendar.daysInMonth year month)
  guard (hour < 24 ∧ minute < 60 ∧ second ≤ 60)
  let (second, nanos) := if second = 60 then (59, nanos + 1000000000) else (second, nanos)
  let secondOfDay : Nat := hour * 3600 + minute * 60 + second
  some ⟨Calendar.dayNumber year month day * 86400 + secondOfDay - offset, nanos⟩

/-- The instant that a timestamp text names. -/
def ofText? (s : String) : Option Instant := ofChars? s.toList

end Instant

/-! ## Timestamps of vendors -/

namespace Timestamp

/-- Whether the second of two timestamps is the earlier one: as instants if both are, and
otherwise in the order of texts, which is right for two of one format. -/
def isEarlier (current candidate : String) : Bool :=
  match Instant.ofText? current, Instant.ofText? candidate with
  | some a, some b => b.before a
  | _, _ => candidate < current

/-- The earlier of two timestamps, of which either may be missing; the first on a tie. -/
def earliest (current candidate : Option String) : Option String :=
  match current, candidate with
  | some a, some b => some (if isEarlier a b then b else a)
  | a, b => a.or b

end Timestamp

end QuotaBoard
