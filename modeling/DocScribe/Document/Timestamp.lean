import DocScribe.Text.Basic

/-!
# `DocScribe.Document.Timestamp`: moments in universal time

A date and a time of day with an offset from universal time say which
moment is meant, if there is such a date and such a time. The moment is
written in universal time to the millisecond; what is finer is cut
off. Shifting it by its offset may leave the years 1 to 9999, which
has no text.

Days are counted from the first day of year 1 in the Gregorian
calendar.
-/

set_option autoImplicit false

namespace DocScribe

namespace Calendar

/-- Whether a year has 366 days. -/
def isLeap (year : Nat) : Bool :=
  year % 4 = 0 && (year % 100 != 0 || year % 400 = 0)

/-- The days of the years before one. -/
def daysBeforeYear (year : Nat) : Nat :=
  let n := year - 1
  n * 365 + n / 4 - n / 100 + n / 400

/-- The lengths of the months of a year. -/
def monthLengths (year : Nat) : List Nat :=
  [31, if isLeap year then 29 else 28, 31, 30, 31, 30, 31, 31, 30, 31, 30, 31]

/-- The days of the months before one in its year. -/
def daysBeforeMonth (year month : Nat) : Nat :=
  total ((monthLengths year).take (month - 1))

/-- The days before a date. -/
def dayNumber (year month day : Nat) : Nat :=
  daysBeforeYear year + daysBeforeMonth year month + (day - 1)

/-- The year that a day lies in: a guess from the mean length of a
year is off by one at most. -/
def yearOf (day : Nat) : Nat :=
  -- 146097 days make 400 years.
  let guess := day * 400 / 146097 + 1
  if day < daysBeforeYear guess then guess - 1
  else if daysBeforeYear (guess + 1) ≤ day then guess + 1
  else guess

/-- The month and the day of the month, for the days left since the
beginning of `month`. -/
def monthFrom : List Nat → Nat → Nat → Nat × Nat
  | [], month, left => (month, left + 1)
  | length :: lengths, month, left =>
    if left < length then (month, left + 1) else monthFrom lengths (month + 1) (left - length)

/-- The date of a day. -/
def dateOf (day : Nat) : Nat × Nat × Nat :=
  let year := yearOf day
  (year, monthFrom (monthLengths year) 1 (day - daysBeforeYear year))

/-- The first day after year 9999. -/
def endDay : Nat := daysBeforeYear 10000

end Calendar

/-- A moment: the seconds since the first day of year 1 in universal
time, and the microseconds of the second. -/
structure Moment where
  seconds : Int
  microsecond : Nat
deriving DecidableEq, Repr

namespace Moment

/-- The text of `seconds` and `millisecond` since the first day of
year 1. -/
def textOf (seconds millisecond : Nat) : Text :=
  let (year, month, day) := Calendar.dateOf (seconds / 86400)
  let clock := seconds % 86400
  let two (n : Nat) : Text := Text.padZeros 2 (Text.ofNat n)
  Text.padZeros 4 (Text.ofNat year) ++ "-" ++ two month ++ "-" ++ two day ++ "T"
    ++ two (clock / 3600) ++ ":" ++ two (clock / 60 % 60) ++ ":" ++ two (clock % 60) ++ "."
    ++ Text.padZeros 3 (Text.ofNat millisecond) ++ "Z"

/-- Whether the moment lies in the years 1 to 9999 of universal
time. -/
def isInRange (m : Moment) : Bool :=
  0 ≤ m.seconds && m.seconds < (Calendar.endDay : Int) * 86400

/-- The text of a moment in universal time, or nothing if it leaves
the range of years. -/
def toText? (m : Moment) : Option Text :=
  if m.isInRange then some (textOf m.seconds.toNat (m.microsecond / 1000)) else none

end Moment

/-- A date and a time of day as given, by any numbers; `offset` is in
seconds east of universal time, and without one universal time is
meant. -/
structure DateTime where
  year : Int
  month : Int
  day : Int
  hour : Int
  minute : Int
  second : Int
  microsecond : Int
  offset : Option Int
deriving DecidableEq, Repr

/-- Why there is no such date and time. -/
inductive DateTimeFault where
  /-- an offset of a day or more -/
  | offset (seconds : Int)
  /-- an offset of more days than can be counted -/
  | offsetDays (days : Int)
  /-- a number that has no room in a word -/
  | wordOverflow (n : Int)
  /-- a moment that has left the years 1 to 9999 in universal time -/
  | shiftedAway
  | year (n : Int)
  | month
  | day
  | hour
  | minute
  | second
  | microsecond
deriving DecidableEq, Repr

namespace DateTimeFault

/-- The first number that has no room in a word of 32 bits. -/
abbrev wordLimit : Int := 2147483648

/-- Whether an integer has room in a word. -/
def fitsWord (n : Int) : Bool :=
  -wordLimit ≤ n && n < wordLimit

/-- A span of days and seconds, the days rounded down; parts that are
zero are left out. -/
def spanText (seconds : Int) : Text :=
  let days := seconds / 86400
  let left := seconds % 86400
  let parts : List Text :=
    (if days = 0 then [] else ["days=" ++ Text.ofInt days])
      ++ (if left = 0 then [] else ["seconds=" ++ Text.ofInt left])
  "datetime.timedelta(" ++ (if parts.isEmpty then ("0" : Text) else Text.joinWith ", " parts)
    ++ ")"

def message : DateTimeFault → Text
  | .offset seconds =>
    "offset must be a timedelta strictly between -timedelta(hours=24) and timedelta(hours=24), not "
      ++ spanText seconds ++ "."
  | .offsetDays days => "days=" ++ Text.ofInt days ++ "; must have magnitude <= 999999999"
  | .wordOverflow n =>
    if n < 0 then "signed integer is less than minimum"
    else "signed integer is greater than maximum"
  | .shiftedAway => "date value out of range"
  | .year n => "year " ++ Text.ofInt n ++ " is out of range"
  | .month => "month must be in 1..12"
  | .day => "day is out of range for month"
  | .hour => "hour must be in 0..23"
  | .minute => "minute must be in 0..59"
  | .second => "second must be in 0..59"
  | .microsecond => "microsecond must be in 0..999999"

def typeName : DateTimeFault → Text
  | .offsetDays _ => "OverflowError"
  | .wordOverflow _ => "OverflowError"
  | .shiftedAway => "OverflowError"
  | _ => "ValueError"

end DateTimeFault

namespace DateTime

open DateTimeFault (fitsWord)

/-- An offset is less than a day. -/
def checkOffset : Option Int → Except DateTimeFault Unit
  | none => .ok ()
  | some seconds =>
    if 999999999 < seconds / 86400 ∨ seconds / 86400 < -999999999 then
      .error (.offsetDays (seconds / 86400))
    else if 86400 ≤ seconds ∨ seconds ≤ -86400 then .error (.offset seconds)
    else .ok ()

/-- A number between bounds. -/
def checkBetween (low high n : Int) (fault : DateTimeFault) : Except DateTimeFault Unit :=
  if low ≤ n ∧ n ≤ high then .ok () else .error fault

/-- How many days a month of a year has. -/
def monthLength (year month : Int) : Int :=
  ((Calendar.monthLengths year.toNat)[month.toNat - 1]?.getD 0 : Nat)

/-- The first of the numbers that has no room in a word. -/
def overflow? (d : DateTime) : Option Int :=
  [d.year, d.month, d.day, d.hour, d.minute, d.second, d.microsecond].find? fun n =>
    !fitsWord n

/-- Every number is looked at in its place: the offset first, then
whether all others are numbers of a word at all, then each from the
year down. -/
def check (d : DateTime) : Except DateTimeFault Unit := do
  checkOffset d.offset
  if let some n := d.overflow? then throw (.wordOverflow n)
  checkBetween 1 9999 d.year (.year d.year)
  checkBetween 1 12 d.month .month
  checkBetween 1 (monthLength d.year d.month) d.day .day
  checkBetween 0 23 d.hour .hour
  checkBetween 0 59 d.minute .minute
  checkBetween 0 59 d.second .second
  checkBetween 0 999999 d.microsecond .microsecond

/-- The seconds to a date and a time that there is. -/
def seconds (d : DateTime) : Int :=
  (Calendar.dayNumber d.year.toNat d.month.toNat d.day.toNat : Int) * 86400
    + d.hour * 3600 + d.minute * 60 + d.second - d.offset.getD 0

/-- The moment that is meant. -/
def moment (d : DateTime) : Except DateTimeFault Moment :=
  d.check.map fun _ => ⟨d.seconds, d.microsecond.toNat⟩

/-- The text of the moment that is meant. -/
def timestamp (d : DateTime) : Except DateTimeFault Text := do
  match (← d.moment).toText? with
  | some text => .ok text
  | none => .error .shiftedAway

end DateTime

end DocScribe
