import FilterQuery.Proofs.Calendar.Instant
import Mathlib.Data.List.Lex
import Mathlib.Data.String.Basic

namespace FilterQuery

/-!
# The order of the texts of timestamps

Texts have their numbers from the largest unit to the smallest, each with leading zeros, so they
sort as what a clock shows, as long as years have four digits.

* `TimeOfDay.ShownBefore` — the order in which a clock shows times;
* `Date.chars_lt_of_before`, `TimeOfDay.chars_lt_of_shownBefore` — the texts of days and times;
* `Timestamp.compare_text` — the texts of timestamps compare as the seconds that a clock shows;
* `Timestamp.textOrder` — how the text of a timestamp compares with the text of any other;
* `Timestamp.textOrder_eq` — where that is the order of the instants.
-/

/-! ### Digits -/

theorem digitChar_lt {m n : Nat} (h : m < n) (hn : n < 10) : digitChar m < digitChar n := by
  have hall : ∀ n < 10, ∀ m < n, digitChar m < digitChar n := by decide
  exact hall n hn m h

/-- Of two texts of one length, the smaller one makes the smaller beginning. -/
theorem append_lt_append_of_lt {a b : List Char} (hlength : a.length = b.length) (h : a < b)
    (x y : List Char) : a ++ x < b ++ y := by
  induction a generalizing b with
  | nil =>
    obtain rfl := List.length_eq_zero_iff.mp hlength.symm
    exact absurd h (lt_irrefl _)
  | cons c cs ih =>
    cases b with
    | nil => cases hlength
    | cons d ds =>
      rw [List.cons_append, List.cons_append, List.cons_lt_cons_iff] at *
      obtain hcd | ⟨rfl, hrest⟩ := h
      · exact .inl hcd
      · exact .inr ⟨rfl, ih (Nat.succ.inj hlength) hrest⟩

/-- Texts with the same beginning are in the order of what follows it. -/
theorem append_lt_append_left (a : List Char) {x y : List Char} (h : x < y) : a ++ x < a ++ y :=
  List.Lex.append_left (· < ·) h a

theorem cons_lt_cons_self (c : Char) {x y : List Char} (h : x < y) : c :: x < c :: y :=
  List.cons_lt_cons_iff.mpr (.inr ⟨rfl, h⟩)

/-- Numbers of so many digits sort as they are. -/
theorem fixedDigits_lt {width m n : Nat} (h : m < n) (hn : n < 10 ^ width) :
    fixedDigits width m < fixedDigits width n := by
  induction width generalizing m n with
  | zero => simp at hn; omega
  | succ w ih =>
    rw [fixedDigits, fixedDigits]
    have hn' : n / 10 < 10 ^ w := by rw [Nat.pow_succ] at hn; omega
    obtain hlt | heq : m / 10 < n / 10 ∨ m / 10 = n / 10 := by omega
    · exact append_lt_append_of_lt (by simp) (ih hlt hn') _ _
    · rw [heq]
      apply append_lt_append_left
      have hdigit : digitChar (m % 10) < digitChar (n % 10) :=
        digitChar_lt (by omega) (Nat.mod_lt _ (by omega))
      exact List.cons_lt_cons_iff.mpr (.inl hdigit)

/-- Texts that start with a number and a separator are in the order of the numbers, and of what
    follows where the numbers are the same. -/
theorem fixedDigits_append_lt {width m n : Nat} {x y : List Char} (separator : Char)
    (hn : n < 10 ^ width) (h : m < n ∨ (m = n ∧ x < y)) :
    fixedDigits width m ++ separator :: x < fixedDigits width n ++ separator :: y := by
  obtain hlt | ⟨rfl, hrest⟩ := h
  · exact append_lt_append_of_lt (by simp) (fixedDigits_lt hlt hn) _ _
  · apply append_lt_append_left
    exact cons_lt_cons_self separator hrest

/-! ### Days and times of day -/

namespace Date

/-- Whether the year has four digits and no sign. -/
def IsPlain (d : Date) : Prop := 0 ≤ d.year ∧ d.year ≤ 9999

instance (d : Date) : Decidable d.IsPlain := inferInstanceAs (Decidable (_ ∧ _))

theorem yearChars_eq {d : Date} (h : d.IsPlain) :
    yearChars d.year = fixedDigits 4 d.year.toNat := if_pos h

/-- Days of plain years are in the order of their texts. -/
theorem chars_lt_of_before {d e : Date} (hd : d.IsPlain) (he : e.IsPlain) (h : d.Before e) :
    d.chars < e.chars := by
  have hmonth : e.month < 10 ^ 2 := by
    have := e.month_bounds
    omega
  have hday : e.day < 10 ^ 2 := by
    have := e.day_bounds.2.trans (daysInMonth_le _ _)
    omega
  rw [chars, chars, yearChars_eq hd, yearChars_eq he]
  obtain ⟨hd0, -⟩ := hd
  obtain ⟨he0, he1⟩ := he
  simp only [List.append_assoc, List.cons_append]
  -- the first of the three numbers that differs decides
  apply fixedDigits_append_lt '-' (by omega)
  refine h.imp (by omega) fun ⟨hyear, h⟩ => ⟨by rw [hyear], ?_⟩
  apply fixedDigits_append_lt '-' hmonth
  exact h.imp_right fun ⟨hmonth', hday'⟩ => ⟨hmonth', fixedDigits_lt hday' hday⟩

theorem length_chars {d : Date} (h : d.IsPlain) : d.chars.length = 10 := by
  simp [chars, yearChars_eq h]

end Date

namespace TimeOfDay

/-- The order of times by the hour, the minute and the second that a clock shows.  The leap second
    at the end of a minute is shown as second 60, so it lies between second 59 and the next
    minute. -/
def ShownBefore (a b : TimeOfDay) : Prop :=
  a.hour < b.hour ∨ (a.hour = b.hour ∧ (a.minute < b.minute ∨
    (a.minute = b.minute ∧ a.clockSecond < b.clockSecond)))

/-- What is shown earlier is earlier. -/
theorem lt_of_shownBefore {a b : TimeOfDay} (h : a.ShownBefore b) :
    a.seconds < b.seconds ∨ (a.seconds = b.seconds ∧ a.nanosecond < b.nanosecond) := by
  have := a.minute_lt
  have := a.second_lt
  have := b.minute_lt
  have := b.second_lt
  unfold ShownBefore clockSecond at h
  unfold seconds
  split at h <;> split at h <;> omega

/-- Whole seconds that a clock shows as they are, are in the order in which it shows them. -/
theorem shownBefore_iff {a b : TimeOfDay} (ha : a.truncate = a) (hb : b.truncate = b)
    (ha' : a.IsRegular) (hb' : b.IsRegular) :
    a.ShownBefore b ↔
      a.seconds < b.seconds ∨ (a.seconds = b.seconds ∧ a.nanosecond < b.nanosecond) := by
  refine ⟨lt_of_shownBefore, ?_⟩
  have := nanosecond_mod ha
  have := nanosecond_mod hb
  have := a.nanosecond_lt
  have := b.nanosecond_lt
  have := a.second_lt
  have := b.second_lt
  have := a.minute_lt
  have := b.minute_lt
  unfold IsRegular at ha' hb'
  unfold ShownBefore seconds clockSecond
  split <;> split <;> omega

/-- The order in which a clock shows times does not depend on fractions of seconds. -/
theorem shownBefore_shown_truncate {a b : TimeOfDay} :
    a.truncate.shown.ShownBefore b.truncate.shown ↔ a.ShownBefore b := by
  simp only [ShownBefore, shown_hour, shown_minute, clockSecond_shown, clockSecond_truncate]
  rfl

/-- The texts of times are in the order in which a clock shows them. -/
theorem chars_lt_of_shownBefore {a b : TimeOfDay} (h : a.ShownBefore b) : a.chars < b.chars := by
  have hhour := b.hour_lt
  have hminute := b.minute_lt
  have hclock : b.clockSecond < 10 ^ 2 := by
    have := b.second_lt
    unfold clockSecond
    split <;> omega
  rw [chars, chars]
  simp only [List.append_assoc, List.cons_append]
  apply fixedDigits_append_lt ':' (by omega)
  refine h.imp_right (And.imp_right fun hrest => ?_)
  apply fixedDigits_append_lt ':' (by omega)
  exact hrest.imp_right (And.imp_right fun hsecond => fixedDigits_lt hsecond hclock)

end TimeOfDay

/-! ### Timestamps of plain years -/

namespace Timestamp

/-- How a timestamp compares with another by the seconds that a clock shows. -/
def shownOrder (s t : Timestamp) : Ordering :=
  compare s.shownSecond.instant t.shownSecond.instant

/-- The seconds that a clock shows of timestamps are in the order of the days, and on one day in
    the order in which it shows the times. -/
theorem instant_shownSecond_lt_iff {s t : Timestamp} :
    s.shownSecond.instant < t.shownSecond.instant ↔
      s.date.Before t.date ∨ (s.date = t.date ∧ s.time.ShownBefore t.time) := by
  have hwhole (t : Timestamp) : t.shownSecond.time.truncate = t.shownSecond.time :=
    congrArg Timestamp.time t.truncate_shownSecond
  rw [instant_lt_iff, ← TimeOfDay.shownBefore_shown_truncate (a := s.time),
    ← TimeOfDay.shownBefore_iff (hwhole s) (hwhole t) s.isRegular_shownSecond
      t.isRegular_shownSecond]
  rfl

/-- A timestamp of which a clock shows an earlier second is earlier. -/
theorem instant_lt_of_shownSecond_lt {s t : Timestamp}
    (h : s.shownSecond.instant < t.shownSecond.instant) : s.instant < t.instant := by
  rw [instant_shownSecond_lt_iff] at h
  rw [instant_lt_iff]
  exact h.imp_right fun ⟨hdate, htime⟩ => ⟨hdate, TimeOfDay.lt_of_shownBefore htime⟩

/-- Timestamps of plain years are in the order of their texts. -/
theorem chars_lt_of_shownSecond_lt {s t : Timestamp} (hs : s.date.IsPlain) (ht : t.date.IsPlain)
    (h : s.shownSecond.instant < t.shownSecond.instant) : s.chars < t.chars := by
  rw [chars, chars]
  obtain hdate | ⟨hdate, htime⟩ := instant_shownSecond_lt_iff.mp h
  · apply append_lt_append_of_lt
    · rw [Date.length_chars hs, Date.length_chars ht]
    · exact Date.chars_lt_of_before hs ht hdate
  · rw [hdate]
    apply append_lt_append_left
    apply cons_lt_cons_self
    exact TimeOfDay.chars_lt_of_shownBefore htime

/-- The texts of timestamps of plain years compare as the seconds that a clock shows. -/
theorem compare_text {s t : Timestamp} (hs : s.date.IsPlain) (ht : t.date.IsPlain) :
    compare s.text t.text = s.shownOrder t := by
  have hlt {a b : Timestamp} (h : a.chars < b.chars) : a.text < b.text := by
    rw [String.lt_iff_toList_lt, text, text, String.toList_ofList, String.toList_ofList]
    exact h
  rw [shownOrder]
  obtain h | h | h := lt_trichotomy s.shownSecond.instant t.shownSecond.instant
  · rw [compare_lt_iff_lt.mpr h]
    exact compare_lt_iff_lt.mpr (hlt (chars_lt_of_shownSecond_lt hs ht h))
  · rw [compare_eq_iff_eq.mpr h, compare_eq_iff_eq, ← text_shownSecond, instant_injective h,
      text_shownSecond]
  · rw [compare_gt_iff_gt.mpr h]
    exact compare_gt_iff_gt.mpr (hlt (chars_lt_of_shownSecond_lt ht hs h))

/-! ### Timestamps of all years -/

/-- A text with a sign sorts before every text without one. -/
theorem chars_lt_of_not_isPlain {s t : Timestamp} (hs : s.date.IsPlain) (ht : ¬t.date.IsPlain) :
    t.chars < s.chars := by
  have hdigit : ∀ n < 10, '-' < digitChar n ∧ '+' < digitChar n := by decide
  obtain ⟨hminus, hplus⟩ := hdigit (s.date.year.toNat / 10 / 10 / 10 % 10) (by omega)
  rw [chars, chars, Date.chars, Date.chars, Date.yearChars_eq hs, yearChars]
  rw [if_neg (by exact ht)]
  simp only [fixedDigits, List.nil_append, List.cons_append]
  apply List.cons_lt_cons_iff.mpr
  split
  · exact .inl hminus
  · exact .inl hplus

/-- How the text of a timestamp of a plain year sorts against another text: a later year
    than 9999 comes first, and fractions of seconds do not count. -/
def textOrder (s t : Timestamp) : Ordering :=
  if 9999 < t.date.year then .gt else s.shownOrder t

/-- How a timestamp of a plain year sorts by its text. -/
theorem compare_text_eq_textOrder {s : Timestamp} (hs : s.date.IsPlain) (t : Timestamp) :
    compare s.text t.text = s.textOrder t := by
  rw [textOrder]
  by_cases ht : t.date.IsPlain
  · rw [if_neg (by have := ht.2; omega), compare_text hs ht]
  · have hgt : compare s.text t.text = .gt := by
      rw [compare_gt_iff_gt, String.lt_iff_toList_lt, text, text,
        String.toList_ofList, String.toList_ofList]
      exact chars_lt_of_not_isPlain hs ht
    rw [hgt]
    split
    · rfl
    · next hyear =>
      symm
      rw [shownOrder, compare_gt_iff_gt, instant_shownSecond_lt_iff]
      have := hs.1
      unfold Date.IsPlain at ht
      exact .inl (.inl (show t.date.year < s.date.year by omega))

/-- Whether the text of a timestamp sorts against the text of a bound as time does: the bound is
    not after year 9999, and is no other timestamp of the second that a clock shows. -/
def IsClearOf (s t : Timestamp) : Prop :=
  t.date.year ≤ 9999 ∧ (s.shownSecond = t.shownSecond → s = t)

instance (s t : Timestamp) : Decidable (s.IsClearOf t) :=
  inferInstanceAs (Decidable (_ ∧ (_ → _)))

/-- Against a bound that it is clear of, the text of a timestamp sorts as time does. -/
theorem textOrder_eq {s t : Timestamp} (hclear : s.IsClearOf t) :
    s.textOrder t = compare s.instant t.instant := by
  obtain ⟨hyear, hclear⟩ := hclear
  rw [textOrder, if_neg (by omega), shownOrder]
  obtain h | h | h := lt_trichotomy s.shownSecond.instant t.shownSecond.instant
  · rw [compare_lt_iff_lt.mpr h, compare_lt_iff_lt.mpr (instant_lt_of_shownSecond_lt h)]
  · rw [compare_eq_iff_eq.mpr h, hclear (instant_injective h), compare_eq_iff_eq.mpr rfl]
  · rw [compare_gt_iff_gt.mpr h, compare_gt_iff_gt.mpr (instant_lt_of_shownSecond_lt h)]

end Timestamp

end FilterQuery
