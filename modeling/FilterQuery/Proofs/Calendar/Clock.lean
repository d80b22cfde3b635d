import FilterQuery.Calendar.Printer

namespace FilterQuery

/-!
# What a clock shows

A clock shows the leap second at the end of a minute as second 60.  It has no number for the
leap second after any other second, and shows it as the second that follows.  So a text names
all times of day but these, and stands for the time that a clock shows.

* `TimeOfDay.IsRegular`, `TimeOfDay.shown` — the times that a clock shows as they are, and what
  it shows of the others;
* `Timestamp.shownSecond` — what is left of a timestamp in its text;
* `Timestamp.text_shownSecond`, `Timestamp.isoText_shown` — texts only tell what a clock shows.
-/

namespace TimeOfDay

variable {t : TimeOfDay}

/-- Whether a clock shows a time as it is: a leap second ends a minute. -/
def IsRegular (t : TimeOfDay) : Prop := t.nanosecond < 1000000000 ∨ t.second = 59

instance (t : TimeOfDay) : Decidable t.IsRegular := inferInstanceAs (Decidable (_ ∨ _))

theorem not_isRegular_iff : ¬t.IsRegular ↔ 1000000000 ≤ t.nanosecond ∧ t.second ≠ 59 := by
  unfold IsRegular
  omega

/-- The time that a clock shows. -/
def shown (t : TimeOfDay) : TimeOfDay :=
  if h : t.IsRegular then t
  else
    { t with
      second := t.second + 1
      nanosecond := t.nanosecond - 1000000000
      second_lt := by have := t.second_lt; have := not_isRegular_iff.mp h; omega
      nanosecond_lt := by have := t.nanosecond_lt; omega }

theorem shown_eq_self (h : t.IsRegular) : t.shown = t := dif_pos h

@[simp] theorem shown_hour (t : TimeOfDay) : t.shown.hour = t.hour := by
  unfold shown
  split <;> rfl

@[simp] theorem shown_minute (t : TimeOfDay) : t.shown.minute = t.minute := by
  unfold shown
  split <;> rfl

theorem shown_second (t : TimeOfDay) :
    t.shown.second = if t.IsRegular then t.second else t.second + 1 := by
  unfold shown
  split <;> rfl

theorem shown_nanosecond (t : TimeOfDay) :
    t.shown.nanosecond = if t.IsRegular then t.nanosecond else t.nanosecond - 1000000000 := by
  unfold shown
  split <;> rfl

/-- A clock shows the time that it shows as it is. -/
theorem isRegular_shown (t : TimeOfDay) : t.shown.IsRegular := by
  by_cases h : t.IsRegular
  · rwa [shown_eq_self h]
  · left
    have := t.nanosecond_lt
    rw [shown_nanosecond, if_neg h]
    omega

/-- A time is shown as another where a clock does not show it as it is. -/
theorem shown_eq_self_iff : t.shown = t ↔ t.IsRegular :=
  ⟨fun h => h ▸ t.isRegular_shown, shown_eq_self⟩

@[simp] theorem clockSecond_shown (t : TimeOfDay) : t.shown.clockSecond = t.clockSecond := by
  by_cases h : t.IsRegular
  · rw [shown_eq_self h]
  · have := t.nanosecond_lt
    have := not_isRegular_iff.mp h
    rw [clockSecond, clockSecond, shown_second, shown_nanosecond, if_neg h, if_neg h,
      if_pos (by omega), if_neg (by omega)]

@[simp] theorem clockFraction_shown (t : TimeOfDay) :
    t.shown.clockFraction = t.clockFraction := by
  by_cases h : t.IsRegular
  · rw [shown_eq_self h]
  · have := not_isRegular_iff.mp h
    rw [clockFraction, clockFraction, shown_nanosecond, if_neg h]
    omega

/-- The text of a time is that of the time that a clock shows. -/
@[simp] theorem chars_shown (t : TimeOfDay) : t.shown.chars = t.chars := by
  simp [chars]

/-- Without its fraction a time is shown as the same second. -/
@[simp] theorem clockSecond_truncate (t : TimeOfDay) :
    t.truncate.clockSecond = t.clockSecond := by
  have hleap : t.nanosecond - t.nanosecond % 1000000000 < 1000000000 ↔
      t.nanosecond < 1000000000 := by omega
  simp only [clockSecond, truncate, hleap]

/-- The fraction of the second does not decide whether a clock shows a time as it is. -/
theorem isRegular_truncate_iff : t.truncate.IsRegular ↔ t.IsRegular := by
  show t.nanosecond - t.nanosecond % 1000000000 < 1000000000 ∨ t.second = 59 ↔ _
  unfold IsRegular
  omega

/-- A time of whole seconds has no fraction. -/
theorem nanosecond_mod (h : t.truncate = t) : t.nanosecond % 1000000000 = 0 := by
  have := congrArg nanosecond h
  simp only [truncate] at this
  omega

theorem truncate_truncate (t : TimeOfDay) : t.truncate.truncate = t.truncate := by
  have htwice : t.nanosecond - t.nanosecond % 1000000000 -
      (t.nanosecond - t.nanosecond % 1000000000) % 1000000000 =
      t.nanosecond - t.nanosecond % 1000000000 := by omega
  simp only [truncate, htwice]

/-- A leap second that does not end a minute is shown from the start of the next second. -/
theorem nanosecond_shown_truncate (h : ¬t.IsRegular) : t.truncate.shown.nanosecond = 0 := by
  have h' : ¬t.truncate.IsRegular := mt isRegular_truncate_iff.mp h
  have hmod := nanosecond_mod t.truncate_truncate
  have := t.truncate.nanosecond_lt
  have := not_isRegular_iff.mp h'
  rw [shown_nanosecond, if_neg h']
  omega

/-- A clock shows whole seconds as such. -/
theorem truncate_shown_truncate (t : TimeOfDay) :
    t.truncate.shown.truncate = t.truncate.shown := by
  by_cases h : t.IsRegular
  · rw [shown_eq_self (isRegular_truncate_iff.mpr h), truncate_truncate]
  · have hzero := nanosecond_shown_truncate h
    cases hshown : t.truncate.shown
    simp_all [truncate]

end TimeOfDay

namespace Timestamp

variable {t : Timestamp}

/-- Whether a clock shows a timestamp as it is. -/
def IsRegular (t : Timestamp) : Prop := t.time.IsRegular

instance (t : Timestamp) : Decidable t.IsRegular := inferInstanceAs (Decidable t.time.IsRegular)

/-- The timestamp that a clock shows. -/
def shown (t : Timestamp) : Timestamp := { t with time := t.time.shown }

/-- The second that a clock shows, from its start. -/
def shownSecond (t : Timestamp) : Timestamp := t.truncate.shown

theorem shown_eq_self (h : t.IsRegular) : t.shown = t := by
  rw [shown, TimeOfDay.shown_eq_self h]

theorem shown_eq_self_iff : t.shown = t ↔ t.IsRegular :=
  ⟨fun h => TimeOfDay.shown_eq_self_iff.mp (congrArg time h), shown_eq_self⟩

theorem isRegular_shownSecond (t : Timestamp) : t.shownSecond.IsRegular :=
  t.time.truncate.isRegular_shown

/-- Where a clock shows a timestamp as it is, only the fraction of the second is lost. -/
theorem shownSecond_eq_truncate (h : t.IsRegular) : t.shownSecond = t.truncate :=
  shown_eq_self (TimeOfDay.isRegular_truncate_iff.mpr h)

theorem truncate_truncate (t : Timestamp) : t.truncate.truncate = t.truncate :=
  congrArg (Timestamp.mk t.date) t.time.truncate_truncate

theorem truncate_shownSecond (t : Timestamp) : t.shownSecond.truncate = t.shownSecond :=
  congrArg (Timestamp.mk t.date) t.time.truncate_shown_truncate

/-- A text tells the second that a clock shows, and nothing else. -/
theorem text_shownSecond (t : Timestamp) : t.shownSecond.text = t.text := by
  have htime : t.time.truncate.shown.chars = t.time.chars := by
    rw [TimeOfDay.chars_shown, TimeOfDay.chars, TimeOfDay.clockSecond_truncate]
    rfl
  show String.ofList (t.date.chars ++ ' ' :: t.time.truncate.shown.chars) = _
  rw [htime]
  rfl

/-- A text with the fraction of the second tells what a clock shows. -/
theorem isoText_shown (t : Timestamp) : t.shown.isoText = t.isoText := by
  show String.ofList (t.date.chars ++ 'T' :: t.time.shown.chars ++
    fractionChars t.time.shown.clockFraction) = _
  rw [TimeOfDay.chars_shown, TimeOfDay.clockFraction_shown]
  rfl

end Timestamp

end FilterQuery
