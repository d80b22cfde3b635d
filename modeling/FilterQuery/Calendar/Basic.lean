namespace FilterQuery

/-!
# Dates, times of day and timestamps

The calendar is the Gregorian one, extended to all years with a year zero.  A leap
second is counted with the second before it: the nanosecond part goes on from one billion.
Any second may have one, but texts only name those that end a minute.

* `Date.of?` — the days: impossible ones are `none`;
* `TimeOfDay.of?` — the times of day that texts name, with a leap second after second 59 only;
* `Date.next?`, `Date.prev?` — the neighbouring day;
* `Timestamp.shift?` — a timestamp moved by less than a day.
-/

/-- Whether a year has a leap day. -/
def isLeapYear (year : Int) : Bool := year % 4 == 0 && (year % 100 != 0 || year % 400 == 0)

/-- The number of days in a month. -/
def daysInMonth (year : Int) (month : Nat) : Nat :=
  if month = 2 then (if isLeapYear year then 29 else 28)
  else if month = 4 ∨ month = 6 ∨ month = 9 ∨ month = 11 then 30
  else 31

/-- The first year of the supported range. -/
def firstYear : Int := -262143

/-- The last year of the supported range. -/
def lastYear : Int := 262142

/-- A day of the calendar within the supported years. -/
structure Date where
  year : Int
  month : Nat
  day : Nat
  year_bounds : firstYear ≤ year ∧ year ≤ lastYear
  month_bounds : 1 ≤ month ∧ month ≤ 12
  day_bounds : 1 ≤ day ∧ day ≤ daysInMonth year month
  deriving DecidableEq

namespace Date

/-- The day with the given numbers, if there is one. -/
def of? (year : Int) (month day : Nat) : Option Date :=
  if hy : firstYear ≤ year ∧ year ≤ lastYear then
    if hm : 1 ≤ month ∧ month ≤ 12 then
      if hd : 1 ≤ day ∧ day ≤ daysInMonth year month then
        some ⟨year, month, day, hy, hm, hd⟩
      else none
    else none
  else none

/-- The day after, unless the calendar ends. -/
def next? (d : Date) : Option Date :=
  of? d.year d.month (d.day + 1) <|> of? d.year (d.month + 1) 1 <|> of? (d.year + 1) 1 1

/-- The day before, unless the calendar begins. -/
def prev? (d : Date) : Option Date :=
  of? d.year d.month (d.day - 1)
    <|> of? d.year (d.month - 1) (daysInMonth d.year (d.month - 1))
    <|> of? (d.year - 1) 12 31

/-- Every day is what its own numbers give. -/
@[simp] theorem of?_self (d : Date) : of? d.year d.month d.day = some d := by
  simp [of?, d.year_bounds, d.month_bounds, d.day_bounds]

/-- `of?` keeps the numbers it is given. -/
theorem of?_eq_some {year : Int} {month day : Nat} {d : Date}
    (h : of? year month day = some d) : d.year = year ∧ d.month = month ∧ d.day = day := by
  unfold of? at h
  split at h
  · split at h
    · split at h
      · cases h; exact ⟨rfl, rfl, rfl⟩
      · simp at h
    · simp at h
  · simp at h

end Date

/-- A time of day to the nanosecond; in the leap second after a second the nanosecond part is
    one billion or more. -/
structure TimeOfDay where
  hour : Nat
  minute : Nat
  second : Nat
  nanosecond : Nat
  hour_lt : hour < 24
  minute_lt : minute < 60
  second_lt : second < 60
  nanosecond_lt : nanosecond < 2000000000
  deriving DecidableEq

namespace TimeOfDay

/-- The time with the given numbers, if there is one; a leap second must end a minute. -/
def of? (hour minute second nanosecond : Nat) : Option TimeOfDay :=
  if hh : hour < 24 then
    if hm : minute < 60 then
      if hs : second < 60 then
        if hn : nanosecond < 1000000000 ∨ (nanosecond < 2000000000 ∧ second = 59) then
          some ⟨hour, minute, second, nanosecond, hh, hm, hs, by omega⟩
        else none
      else none
    else none
  else none

/-- The time with the given numbers, where second 60 is a leap second. -/
def ofClock? (hour minute second nanosecond : Nat) : Option TimeOfDay :=
  if second = 60 then of? hour minute 59 (nanosecond + 1000000000)
  else of? hour minute second nanosecond

/-- The start of the day. -/
def midnight : TimeOfDay := ⟨0, 0, 0, 0, by omega, by omega, by omega, by omega⟩

/-- The second as a clock shows it: in a leap second the next one, which is 60 at the end of
    a minute. -/
def clockSecond (t : TimeOfDay) : Nat :=
  if t.nanosecond < 1000000000 then t.second else t.second + 1

/-- The fraction of the second that a clock shows, in nanoseconds. -/
def clockFraction (t : TimeOfDay) : Nat := t.nanosecond % 1000000000

/-- The time without its fraction of a second; a leap second stays one. -/
def truncate (t : TimeOfDay) : TimeOfDay :=
  { t with
    nanosecond := t.nanosecond - t.nanosecond % 1000000000
    nanosecond_lt := by have := t.nanosecond_lt; omega }

/-- The same second of another minute of the day. -/
def atMinute (t : TimeOfDay) (minuteOfDay : Nat) : TimeOfDay :=
  { t with
    hour := minuteOfDay / 60 % 24
    minute := minuteOfDay % 60
    hour_lt := by omega
    minute_lt := by omega }

end TimeOfDay

/-- A day and a time of that day, without a zone. -/
structure Timestamp where
  date : Date
  time : TimeOfDay
  deriving DecidableEq

namespace Timestamp

/-- The timestamp without its fraction of a second. -/
def truncate (t : Timestamp) : Timestamp := { t with time := t.time.truncate }

/-- The timestamp earlier by a number of minutes that is less than a day either way, if
    the calendar reaches that far. -/
def shift? (t : Timestamp) (minutes : Int) : Option Timestamp :=
  let clock : Int := t.time.hour * 60 + t.time.minute - minutes
  let date? := if clock < 0 then t.date.prev? else if clock < 1440 then some t.date else t.date.next?
  date?.map fun date => ⟨date, t.time.atMinute (clock % 1440).toNat⟩

end Timestamp

end FilterQuery
