import FilterQuery.Proofs.Calendar.Clock
import Mathlib.Algebra.GroupWithZero.Nat
import Mathlib.Data.Prod.Lex

namespace FilterQuery

/-!
# Days and instants

An instant is a number of seconds on a scale without leap seconds, and nanoseconds past it; a leap
second lies between the second before it and the one after it.

* `Date.number` — days counted from the first day of year 0;
* `Date.number_lt_iff` — days are in the order of year, month and day of the month;
* `Timestamp.instant` — timestamps as instants;
* `Timestamp.instant_lt_iff` — they are in the order of days and times.
-/

/-! ### Days -/

/-- The number of days from the start of year 0 to the start of a year. -/
def daysBeforeYear (year : Int) : Int :=
  365 * year + (year + 3) / 4 - (year + 99) / 100 + (year + 399) / 400

/-- The number of days from the start of a year to the start of a month. -/
def daysBeforeMonth (year : Int) (month : Nat) : Nat :=
  ((List.range (month - 1)).map fun m => daysInMonth year (m + 1)).sum

/-- The number of a day, counted from the first day of year 0, which has number 1. -/
def Date.number (d : Date) : Int :=
  daysBeforeYear d.year + daysBeforeMonth d.year d.month + d.day

theorem daysBeforeYear_mono {y z : Int} (h : y ≤ z) : daysBeforeYear y ≤ daysBeforeYear z := by
  unfold daysBeforeYear
  omega

theorem daysBeforeMonth_succ (year : Int) {month : Nat} (h : 1 ≤ month) :
    daysBeforeMonth year (month + 1) = daysBeforeMonth year month + daysInMonth year month := by
  obtain ⟨m, rfl⟩ := Nat.exists_eq_add_of_le' h
  simp [daysBeforeMonth, List.range_succ]

theorem daysBeforeMonth_mono (year : Int) {m n : Nat} (hm : 1 ≤ m) (h : m ≤ n) :
    daysBeforeMonth year m ≤ daysBeforeMonth year n := by
  induction n, h using Nat.le_induction with
  | base => exact le_refl _
  | succ n hn ih =>
    rw [daysBeforeMonth_succ year (by omega)]
    omega

/-- The months of a year take up the year. -/
theorem daysBeforeYear_succ (year : Int) :
    daysBeforeYear (year + 1) = daysBeforeYear year + daysBeforeMonth year 13 := by
  have hmonths : daysBeforeMonth year 13 = if isLeapYear year then 366 else 365 := by
    unfold daysBeforeMonth daysInMonth
    cases isLeapYear year <;> rfl
  have hleap : isLeapYear year = true ↔ year % 4 = 0 ∧ (year % 100 ≠ 0 ∨ year % 400 = 0) := by
    simp [isLeapYear]
  rw [hmonths]
  unfold daysBeforeYear
  split
  · next h => rw [hleap] at h; omega
  · next h => rw [hleap] at h; omega

theorem daysInMonth_le (year : Int) (month : Nat) : daysInMonth year month ≤ 31 := by
  unfold daysInMonth
  split_ifs <;> omega

namespace Date

/-- The order of days by year, month and day of the month. -/
def Before (d e : Date) : Prop :=
  d.year < e.year ∨ (d.year = e.year ∧ (d.month < e.month ∨ (d.month = e.month ∧ d.day < e.day)))

theorem before_trichotomy (d e : Date) : d.Before e ∨ d = e ∨ e.Before d := by
  have heq : d = e ↔ d.year = e.year ∧ d.month = e.month ∧ d.day = e.day := by
    cases d; cases e; simp
  rw [heq]
  unfold Before
  omega

/-- A day with its month is within its year. -/
theorem number_le (d : Date) {month : Nat} (h : d.month < month) :
    d.number ≤ daysBeforeYear d.year + daysBeforeMonth d.year month := by
  have hday := d.day_bounds.2
  have hsucc := daysBeforeMonth_succ d.year d.month_bounds.1
  have hmono : daysBeforeMonth d.year (d.month + 1) ≤ daysBeforeMonth d.year month :=
    daysBeforeMonth_mono d.year (by omega) h
  unfold number
  omega

theorem number_lt_of_before {d e : Date} (h : d.Before e) : d.number < e.number := by
  have hday := e.day_bounds.1
  have he : daysBeforeYear e.year + daysBeforeMonth e.year e.month + e.day = e.number := rfl
  obtain hyear | ⟨hyear, hmonth | ⟨hmonth, hday'⟩⟩ := h
  · have hd : d.number ≤ daysBeforeYear d.year + daysBeforeMonth d.year 13 :=
      d.number_le (Nat.lt_succ_of_le d.month_bounds.2)
    have hsucc := daysBeforeYear_succ d.year
    have hmono := daysBeforeYear_mono (Int.add_one_le_of_lt hyear)
    omega
  · have hd := d.number_le hmonth
    rw [hyear] at hd
    omega
  · have hd : daysBeforeYear d.year + daysBeforeMonth d.year d.month + d.day = d.number := rfl
    rw [hyear, hmonth] at hd
    omega

/-- Days are in the order of their numbers. -/
theorem number_lt_iff {d e : Date} : d.number < e.number ↔ d.Before e := by
  refine ⟨fun h => ?_, number_lt_of_before⟩
  obtain hbefore | rfl | hafter := before_trichotomy d e
  · exact hbefore
  · omega
  · have := number_lt_of_before hafter
    omega

/-- A day has a number of its own. -/
theorem number_injective {d e : Date} (h : d.number = e.number) : d = e := by
  obtain hbefore | rfl | hafter := before_trichotomy d e
  · have := number_lt_of_before hbefore
    omega
  · rfl
  · have := number_lt_of_before hafter
    omega

end Date

/-! ### Instants -/

/-- The number of seconds from the start of a day. -/
def TimeOfDay.seconds (t : TimeOfDay) : Nat := t.hour * 3600 + t.minute * 60 + t.second

theorem TimeOfDay.seconds_lt (t : TimeOfDay) : t.seconds < 86400 := by
  have := t.hour_lt
  have := t.minute_lt
  have := t.second_lt
  unfold seconds
  omega

/-- A leap second that does not end a minute is shown as the second that follows it. -/
theorem TimeOfDay.seconds_shown_truncate {t : TimeOfDay} (h : ¬t.IsRegular) :
    t.truncate.shown.seconds = t.seconds + 1 := by
  have h' : ¬t.truncate.IsRegular := mt isRegular_truncate_iff.mp h
  have hsecond : t.truncate.shown.second = t.second + 1 := by
    rw [shown_second, if_neg h', truncate]
  rw [seconds, shown_hour, shown_minute, hsecond, ← Nat.add_assoc]
  rfl

/-- The instant of a timestamp: seconds, and nanoseconds past them. -/
def Timestamp.instant (t : Timestamp) : Int ×ₗ Nat :=
  toLex (t.date.number * 86400 + t.time.seconds, t.time.nanosecond)

/-- A timestamp is earlier by its day, or by its time on the same day. -/
theorem Timestamp.instant_lt_iff {s t : Timestamp} :
    s.instant < t.instant ↔ s.date.Before t.date ∨ (s.date = t.date ∧
      (s.time.seconds < t.time.seconds ∨
        (s.time.seconds = t.time.seconds ∧ s.time.nanosecond < t.time.nanosecond))) := by
  have hs := s.time.seconds_lt
  have ht := t.time.seconds_lt
  have heq : s.date = t.date ↔ s.date.number = t.date.number :=
    ⟨congrArg _, Date.number_injective⟩
  rw [instant, instant, Prod.Lex.toLex_lt_toLex, ← Date.number_lt_iff, heq]
  simp only
  omega

/-- A time of day is what its seconds and nanoseconds give. -/
theorem TimeOfDay.eq_of_seconds_eq {a b : TimeOfDay} (hseconds : a.seconds = b.seconds)
    (hnanosecond : a.nanosecond = b.nanosecond) : a = b := by
  have := a.minute_lt
  have := a.second_lt
  have := b.minute_lt
  have := b.second_lt
  unfold seconds at hseconds
  have hhour : a.hour = b.hour := by omega
  have hminute : a.minute = b.minute := by omega
  have hsecond : a.second = b.second := by omega
  cases a
  cases b
  simp_all

/-- A timestamp has an instant of its own. -/
theorem Timestamp.instant_injective {s t : Timestamp} (h : s.instant = t.instant) : s = t := by
  obtain ⟨hseconds, hnanosecond⟩ := Prod.mk.inj h
  have hs := s.time.seconds_lt
  have ht := t.time.seconds_lt
  have hdate : s.date = t.date := Date.number_injective (by omega)
  have htime : s.time = t.time := by
    rw [hdate] at hseconds
    exact TimeOfDay.eq_of_seconds_eq (by omega) hnanosecond
  cases s
  cases t
  simp_all

end FilterQuery
