import TableBrowser.Number.Decimal
/-!
# Dates, times of day and moments

Dates are days of the proleptic Gregorian calendar in the years 1 to 9999. The weeks
of that calendar start on a Monday; the first week of a year is the one with its first
Thursday.

A time of day has a resolution of one microsecond and may say how far it is
ahead of universal time. A moment is a date with a time. Only times that both
have an offset, or both have none, can be put in order.
-/

namespace TableBrowser

/-! ## Dates -/

def isLeapYear (year : Nat) : Bool :=
  year % 4 = 0 && (year % 100 != 0 || year % 400 = 0)

def daysInYear (year : Nat) : Nat := if isLeapYear year then 366 else 365

def daysInMonth (year month : Nat) : Nat :=
  if month = 2 then (if isLeapYear year then 29 else 28)
  else if month = 4 ∨ month = 6 ∨ month = 9 ∨ month = 11 then 30
  else 31

/-- What makes three numbers a date. -/
def IsDate (year month day : Nat) : Prop :=
  (1 ≤ year ∧ year ≤ 9999) ∧ (1 ≤ month ∧ month ≤ 12) ∧
    (1 ≤ day ∧ day ≤ daysInMonth year month)

instance (year month day : Nat) : Decidable (IsDate year month day) :=
  inferInstanceAs (Decidable (_ ∧ _))

structure Date where
  year : Nat
  month : Nat
  day : Nat
  valid : IsDate year month day
deriving DecidableEq

namespace Date

instance : Inhabited Date := ⟨⟨1, 1, 1, by decide⟩⟩

def ofParts? (year month day : Nat) : Option Date :=
  if valid : IsDate year month day then some ⟨year, month, day, valid⟩ else none

def daysBeforeYear (year : Nat) : Nat :=
  let before := year - 1
  before * 365 + before / 4 - before / 100 + before / 400

def daysBeforeMonth (year month : Nat) : Nat :=
  (List.range (month - 1)).foldr (fun earlier days => daysInMonth year (earlier + 1) + days) 0

/-- The number of the day, the first of January of the year 1 being day 1. -/
def ordinal (date : Date) : Nat :=
  daysBeforeYear date.year + daysBeforeMonth date.year date.month + date.day

/-- Walks through the months of a year until a day number falls into one. -/
def ofMonthDay? (year month dayNumber : Nat) : Nat → Option Date
  | 0 => none
  | later + 1 =>
      let days := daysInMonth year month
      if dayNumber ≤ days then ofParts? year month dayNumber
      else ofMonthDay? year (month + 1) (dayNumber - days) later

/-- The day of a year by its number, which may run over into a neighbouring year. -/
def ofYearDay? (year : Nat) (dayNumber : Int) : Option Date :=
  if dayNumber < 1 then
    ofMonthDay? (year - 1) 1 (dayNumber + daysInYear (year - 1)).toNat 12
  else if dayNumber ≤ daysInYear year then ofMonthDay? year 1 dayNumber.toNat 12
  else ofMonthDay? (year + 1) 1 (dayNumber - daysInYear year).toNat 12

/-- The day of the week of the first of January, Monday being 0. -/
def firstWeekday (year : Nat) : Nat := daysBeforeYear year % 7

/-- The day number of the Monday of the first week, zero or less when it lies in the year before. -/
def firstMonday (year : Nat) : Int :=
  let weekday := firstWeekday year
  if weekday ≤ 3 then 1 - (weekday : Int) else 8 - (weekday : Int)

def weeksInYear (year : Nat) : Nat :=
  let weekday := firstWeekday year
  if weekday = 3 ∨ (weekday = 2 ∧ isLeapYear year) then 53 else 52

/-- A day given by year, week and day of the week, all counted from 1. -/
def ofWeek? (year week weekday : Nat) : Option Date :=
  if (1 ≤ year ∧ year ≤ 9999) ∧ (1 ≤ week ∧ week ≤ weeksInYear year) ∧
      (1 ≤ weekday ∧ weekday ≤ 7) then
    ofYearDay? year (firstMonday year + 7 * (week - 1) + (weekday - 1))
  else none

def text (date : Date) : String :=
  Decimal.padded 4 date.year ++ "-" ++ Decimal.padded 2 date.month ++ "-" ++
    Decimal.padded 2 date.day

def key (date : Date) : Nat := (date.year * 12 + date.month) * 31 + date.day

end Date

example : (Date.ofWeek? 2024 5 3).map Date.ordinal = (Date.ofParts? 2024 1 31).map Date.ordinal := by
  decide

/-! ## Times of day and moments -/

def microsecondsPerDay : Nat := 86400 * 1000000

/-- A distance from universal time of less than a day. -/
structure UtcOffset where
  microseconds : Int
  bounded : microseconds.natAbs < microsecondsPerDay
deriving DecidableEq

namespace UtcOffset

def utc : UtcOffset := ⟨0, by decide⟩

def ofMicroseconds? (microseconds : Int) : Option UtcOffset :=
  if bounded : microseconds.natAbs < microsecondsPerDay then some ⟨microseconds, bounded⟩ else none

/-- The offset without its fraction of a second, in microseconds. -/
def wholeSeconds (offset : UtcOffset) : Int := Int.fdiv offset.microseconds 1000000 * 1000000

/-- Sign, hours and minutes; seconds and their fraction when they are not zero. -/
def text (offset : UtcOffset) : String :=
  let sign := if offset.microseconds < 0 then "-" else "+"
  let size := offset.microseconds.natAbs
  let seconds := size / 1000000
  let fraction := size % 1000000
  let minutes := Decimal.padded 2 (seconds / 3600) ++ ":" ++ Decimal.padded 2 (seconds / 60 % 60)
  let detail :=
    if fraction ≠ 0 then
      ":" ++ Decimal.padded 2 (seconds % 60) ++ "." ++ Decimal.padded 6 fraction
    else if seconds % 60 ≠ 0 then ":" ++ Decimal.padded 2 (seconds % 60)
    else ""
  sign ++ minutes ++ detail

end UtcOffset

/-- What makes four numbers a time of day. -/
def IsTime (hour minute second microsecond : Nat) : Prop :=
  hour < 24 ∧ minute < 60 ∧ second < 60 ∧ microsecond < 1000000

instance (hour minute second microsecond : Nat) :
    Decidable (IsTime hour minute second microsecond) :=
  inferInstanceAs (Decidable (_ ∧ _))

structure Time where
  hour : Nat
  minute : Nat
  second : Nat
  microsecond : Nat
  offset : Option UtcOffset
  valid : IsTime hour minute second microsecond
deriving DecidableEq

namespace Time

def midnight : Time := ⟨0, 0, 0, 0, none, by decide⟩

instance : Inhabited Time := ⟨midnight⟩

def ofParts? (hour minute second microsecond : Nat) (offset : Option UtcOffset) : Option Time :=
  if valid : IsTime hour minute second microsecond then
    some ⟨hour, minute, second, microsecond, offset, valid⟩
  else none

def text (time : Time) : String :=
  Decimal.padded 2 time.hour ++ ":" ++ Decimal.padded 2 time.minute ++ ":" ++
    Decimal.padded 2 time.second ++
    (if time.microsecond ≠ 0 then "." ++ Decimal.padded 6 time.microsecond else "") ++
    (time.offset.map UtcOffset.text).getD ""

/-- Microseconds since midnight on the clock that shows the time. -/
def sinceMidnight (time : Time) : Int :=
  (((time.hour * 60 + time.minute) * 60 + time.second) * 1000000 + time.microsecond : Nat)

end Time

structure Moment where
  date : Date
  time : Time
deriving DecidableEq, Inhabited

namespace Moment

def ofDate (date : Date) : Moment := ⟨date, .midnight⟩

def text (moment : Moment) : String := moment.date.text ++ "T" ++ moment.time.text

/-- Microseconds on the clock that shows the moment. -/
def clockMicroseconds (moment : Moment) : Int :=
  (moment.date.ordinal * microsecondsPerDay : Nat) + moment.time.sinceMidnight

end Moment

/-- Two clock readings put on one clock, when both have an offset or neither has one. -/
def onOneClock? (left right : Option Int) (leftClock rightClock : Int) : Option (Int × Int) :=
  match left, right with
  | none, none => some (leftClock, rightClock)
  | some leftAhead, some rightAhead => some (leftClock - leftAhead, rightClock - rightAhead)
  | _, _ => none

/-- Times of day are compared by the whole seconds of their offsets. -/
def Time.comparable? (left right : Time) : Option (Int × Int) :=
  onOneClock? (left.offset.map UtcOffset.wholeSeconds) (right.offset.map UtcOffset.wholeSeconds)
    left.sinceMidnight right.sinceMidnight

def Moment.comparable? (left right : Moment) : Option (Int × Int) :=
  onOneClock? (left.time.offset.map UtcOffset.microseconds)
    (right.time.offset.map UtcOffset.microseconds)
    left.clockMicroseconds right.clockMicroseconds

end TableBrowser
