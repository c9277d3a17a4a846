import ServerLaunch.Number.Shortest

/-!
# Dates and Times

The calendar values that a settings file may hold.

The launcher has no use for them, but a settings file may contain one, and where
any value is accepted it is taken as its text. So a moment only has to be a real
date or time and to have its two written forms.

## Main definitions

* `Date`, `ClockTime`, `Moment`: The values.
* `daysInMonth`, `Date.isReal`: The calendar.
* `Moment.display`: The form in running text.
* `Moment.literal`: The form inside a collection.
-/

namespace ServerLaunch

/-- A day of the calendar. -/
structure Date where
  year : Nat
  month : Nat
  day : Nat
deriving DecidableEq, Repr, Inhabited

/-- A time of day to the microsecond. -/
structure ClockTime where
  hour : Nat
  minute : Nat
  second : Nat
  microsecond : Nat
deriving DecidableEq, Repr, Inhabited

/-- A date, a time of day, or both, then possibly with a distance from universal
    time in minutes. -/
inductive Moment where
  | date (d : Date)
  | time (t : ClockTime)
  | dateTime (d : Date) (t : ClockTime) (offset : Option Int)
deriving DecidableEq, Repr, Inhabited

/-- Leap years come every four years, save for centuries not divisible by 400. -/
def isLeapYear (year : Nat) : Bool :=
  (year % 4 == 0 && year % 100 != 0) || year % 400 == 0

/-- The length of a month. -/
def daysInMonth (year month : Nat) : Nat :=
  if month == 2 then (if isLeapYear year then 29 else 28)
  else if month == 4 || month == 6 || month == 9 || month == 11 then 30
  else 31

/-- Whether the calendar has such a day; there is no year zero. -/
def Date.isReal (d : Date) : Bool :=
  1 ≤ d.year && 1 ≤ d.month && d.month ≤ 12 && 1 ≤ d.day && d.day ≤ daysInMonth d.year d.month

namespace Moment

open Binary64 (padZeros digitChars)

/-- A number in at least `width` digits. -/
def padded (width n : Nat) : List Char :=
  padZeros width (digitChars n)

/-- A day as year, month and day. -/
def dateChars (d : Date) : List Char :=
  padded 4 d.year ++ '-' :: (padded 2 d.month ++ '-' :: padded 2 d.day)

/-- A time of day, with microseconds if there are any. -/
def timeChars (t : ClockTime) : List Char :=
  padded 2 t.hour ++ ':' :: (padded 2 t.minute ++ ':' :: padded 2 t.second) ++
    (if t.microsecond = 0 then [] else '.' :: padded 6 t.microsecond)

/-- A distance from universal time. -/
def offsetChars (minutes : Int) : List Char :=
  (if minutes < 0 then '-' else '+') ::
    (padded 2 (minutes.natAbs / 60) ++ ':' :: padded 2 (minutes.natAbs % 60))

/-- The form in running text. -/
def display : Moment → List Char
  | .date d => dateChars d
  | .time t => timeChars t
  | .dateTime d t offset =>
    dateChars d ++ ' ' :: (timeChars t ++ (offset.map offsetChars).getD [])

/-- Parts of a time that are shown inside a collection: seconds and microseconds
    are left out where they are zero and nothing follows them. -/
def timeParts (t : ClockTime) : List Nat :=
  if t.microsecond ≠ 0 then [t.hour, t.minute, t.second, t.microsecond]
  else if t.second ≠ 0 then [t.hour, t.minute, t.second]
  else [t.hour, t.minute]

/-- Numbers with commas between them. -/
def commaList (ns : List Nat) : List Char :=
  [',', ' '].intercalate (ns.map digitChars)

/-- The zone of a date and time inside a collection. -/
def zoneChars (minutes : Int) : List Char :=
  let seconds := minutes * 60
  if seconds = 0 then ", tzinfo=datetime.timezone.utc".toList
  else
    let days := if seconds < 0 then "days=-1, ".toList else []
    ", tzinfo=datetime.timezone(datetime.timedelta(".toList ++ days ++ "seconds=".toList ++
      digitChars (seconds % 86400).toNat ++ "))".toList

/-- The form inside a collection. -/
def literal : Moment → List Char
  | .date d => "datetime.date(".toList ++ commaList [d.year, d.month, d.day] ++ [')']
  | .time t => "datetime.time(".toList ++ commaList (timeParts t) ++ [')']
  | .dateTime d t offset =>
    "datetime.datetime(".toList ++ commaList ([d.year, d.month, d.day] ++ timeParts t) ++
      (offset.map zoneChars).getD [] ++ [')']

end Moment

end ServerLaunch
