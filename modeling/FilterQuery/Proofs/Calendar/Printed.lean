import FilterQuery.Calendar.Reader
import FilterQuery.Proofs.Calendar.Instant
import FilterQuery.Proofs.Number.Decimal

namespace FilterQuery

/-!
# Printed days and times are scanned

Each number in the text of a timestamp has as many digits as the layout allows, or a separator
behind it that is no digit.  So each item of a layout takes off its own number, whatever stands
behind it.

* `scanNumber_digits`, `scanYear_yearChars` — printed numbers and years are scanned;
* `LayoutItem.scan_month`, `LayoutItem.scan_second` and those between — each number in its place;
* `Layout.scanFrom_date`, `Layout.scanFrom_time` — printed days and times of day are scanned.
-/

/-! ### Digits -/

theorem isDigit_digitChar {d : Nat} (h : d < 10) : (digitChar d).isDigit = true := by
  have hall : ∀ d < 10, (digitChar d).isDigit = true := by decide
  exact hall d h

theorem toNat_digitChar {d : Nat} (h : d < 10) : (digitChar d).toNat - '0'.toNat = d := by
  have hall : ∀ d < 10, (digitChar d).toNat - '0'.toNat = d := by decide
  exact hall d h

theorem isDigit_of_mem_fixedDigits {width n : Nat} {c : Char} (h : c ∈ fixedDigits width n) :
    c.isDigit = true := by
  induction width generalizing n with
  | zero => cases h
  | succ w ih =>
    rw [fixedDigits, List.mem_append, List.mem_singleton] at h
    obtain h | rfl := h
    · exact ih h
    · exact isDigit_digitChar (Nat.mod_lt n (by decide))

/-- A number of so many digits is what its digits stand for. -/
theorem ofDigitChars_fixedDigits {width n : Nat} (h : n < 10 ^ width) :
    Nat.ofDigitChars 10 (fixedDigits width n) 0 = n := by
  induction width generalizing n with
  | zero => simp at h; simp [h, fixedDigits]
  | succ w ih =>
    have hrest : n / 10 < 10 ^ w := by rw [Nat.pow_succ] at h; omega
    rw [fixedDigits, Nat.ofDigitChars_append, ih hrest, Nat.ofDigitChars_cons,
      toNat_digitChar (Nat.mod_lt n (by decide)), Nat.ofDigitChars_nil]
    omega

theorem isDigit_of_mem_paddedDigits {width n : Nat} {c : Char} (h : c ∈ paddedDigits width n) :
    c.isDigit = true := by
  rw [paddedDigits, List.mem_append] at h
  obtain h | h := h
  · rw [List.eq_of_mem_replicate h]
    rfl
  · exact Nat.isDigit_of_mem_toDigits (by decide) (by decide) h

theorem ofDigitChars_paddedDigits (width n : Nat) :
    Nat.ofDigitChars 10 (paddedDigits width n) 0 = n := by
  rw [paddedDigits, Nat.ofDigitChars_append, Nat.ofDigitChars_replicate_zero, Nat.mul_zero]
  exact Nat.ofDigitChars_ten_toDigits

theorem length_paddedDigits_pos (width n : Nat) : 1 ≤ (paddedDigits width n).length := by
  have hdigits : 0 < (Nat.toDigits 10 n).length := Nat.length_toDigits_pos
  rw [paddedDigits, List.length_append]
  omega

/-- Digits are scanned up to the largest number of them, or up to a character that is none. -/
theorem spanDigits_digits {max : Nat} {cs rest : List Char} (hcs : ∀ c ∈ cs, c.isDigit = true)
    (hmax : cs.length ≤ max)
    (hrest : cs.length = max ∨ ∀ c ∈ rest.head?, c.isDigit = false) :
    spanDigits max (cs ++ rest) = (cs.map fun c => c.toNat - '0'.toNat, rest) := by
  induction cs generalizing max with
  | nil =>
    cases max with
    | zero => rfl
    | succ max =>
      cases rest with
      | nil => rfl
      | cons c rest =>
        have hc : c.isDigit = false := by simpa using hrest
        rw [List.nil_append, spanDigits]
        simp [digit?, hc]
  | cons c cs ih =>
    rw [List.forall_mem_cons] at hcs
    obtain ⟨max, rfl⟩ := Nat.exists_eq_add_of_le' (Nat.le_of_add_left_le hmax)
    have hdigit : digit? c = some (c.toNat - '0'.toNat) := if_pos hcs.1
    simp only [List.length_cons, Nat.add_le_add_iff_right, Nat.add_right_cancel_iff] at hmax hrest
    rw [List.cons_append, spanDigits, hdigit]
    simp [ih hcs.2 hmax hrest]

theorem ofDigits_map (cs : List Char) :
    ofDigits (cs.map fun c => c.toNat - '0'.toNat) = Nat.ofDigitChars 10 cs 0 := by
  rw [ofDigits, List.foldl_map, Nat.ofDigitChars]

/-- The number that digits stand for is scanned. -/
theorem scanNumber_digits {min max : Nat} {cs rest : List Char}
    (hcs : ∀ c ∈ cs, c.isDigit = true) (hmin : min ≤ cs.length) (hmax : cs.length ≤ max)
    (hrest : cs.length = max ∨ ∀ c ∈ rest.head?, c.isDigit = false) :
    scanNumber min max (cs ++ rest) = .ok (Nat.ofDigitChars 10 cs 0, rest) := by
  rw [scanNumber, spanDigits_digits hcs hmax hrest]
  simp only [List.length_map, if_pos hmin, ofDigits_map]

/-- Digits in front are no white space. -/
theorem trimStart_digits {cs : List Char} (hne : cs ≠ []) (hcs : ∀ c ∈ cs, c.isDigit = true)
    (rest : List Char) : Text.trimStart (cs ++ rest) = cs ++ rest := by
  apply Text.trimStart_eq_self
  obtain ⟨c, cs, rfl⟩ := List.exists_cons_of_ne_nil hne
  intro d hd
  obtain rfl : c = d := Option.some.inj hd
  exact Text.isBlank_of_isDigit (hcs c List.mem_cons_self)

theorem trimStart_fixedDigits (width n : Nat) (rest : List Char) :
    Text.trimStart (fixedDigits (width + 1) n ++ rest) = fixedDigits (width + 1) n ++ rest :=
  trimStart_digits (List.ne_nil_of_length_eq_add_one (length_fixedDigits (width + 1) n))
    (fun _ hc => isDigit_of_mem_fixedDigits hc) rest

/-! ### Items -/

/-- A year that begins with a digit has four of them at most. -/
theorem scanYear_of_isDigit {c : Char} (hc : c.isDigit = true) (cs : List Char) :
    scanYear (c :: cs) = (scanNumber 1 4 (c :: cs)).map fun (n, rest) => ((n : Int), rest) := by
  have hplus : c ≠ '+' := ne_of_isDigit hc rfl
  have hminus : c ≠ '-' := ne_of_isDigit hc rfl
  rw [scanYear]
  · simpa using hminus
  · simpa using hplus

/-- A year is scanned in front of a character that is no digit. -/
theorem scanYear_yearChars (year : Int) {rest : List Char}
    (hrest : ∀ c ∈ rest.head?, c.isDigit = false) :
    scanYear (yearChars year ++ rest) = .ok (year, rest) := by
  rw [yearChars]
  split
  · -- a year of four digits, which is read without a sign
    next hyear =>
    have hscan : scanNumber 1 4 (fixedDigits 4 year.toNat ++ rest) = .ok (year.toNat, rest) := by
      rw [scanNumber_digits (fun c hc => isDigit_of_mem_fixedDigits hc) (by simp) (by simp)
        (.inl (by simp)), ofDigitChars_fixedDigits (by omega)]
    obtain ⟨c, cs, hcs⟩ : ∃ c cs, fixedDigits 4 year.toNat = c :: cs :=
      List.exists_cons_of_ne_nil (List.ne_nil_of_length_eq_add_one (length_fixedDigits 4 _))
    have hc : c.isDigit = true := isDigit_of_mem_fixedDigits (hcs ▸ List.mem_cons_self)
    rw [hcs, List.cons_append] at hscan ⊢
    rw [scanYear_of_isDigit hc, hscan]
    simp [Except.map, Int.toNat_of_nonneg hyear.1]
  · -- a year behind a sign, which is read up to the next character that is no digit
    have hscan : scanNumber 1 (paddedDigits 4 year.natAbs ++ rest).length
        (paddedDigits 4 year.natAbs ++ rest) = .ok (year.natAbs, rest) := by
      rw [scanNumber_digits (fun c hc => isDigit_of_mem_paddedDigits hc)
        (length_paddedDigits_pos 4 year.natAbs) (by simp) (.inr hrest), ofDigitChars_paddedDigits]
    by_cases hsign : year < 0
    · rw [if_pos hsign, List.cons_append, scanYear, hscan]
      simp only [Except.map]
      congr 2
      omega
    · rw [if_neg hsign, List.cons_append, scanYear, hscan]
      simp only [Except.map]
      congr 2
      omega

namespace LayoutItem

/-- A character of a choice of one is scanned. -/
theorem scan_oneOf (clock : Clock) (c : Char) (rest : List Char) :
    (oneOf [c]).scan clock (c :: rest) = .ok (clock, rest) := by
  simp [scan]

/-- A number of two digits is scanned. -/
theorem scan_number {part : ClockPart} (hpart : part ≠ .year) {n : Nat} (hn : n < 10 ^ 2)
    {clock clock' : Clock} (hset : clock.set part n = .ok clock') (rest : List Char) :
    (number part).scan clock (fixedDigits 2 n ++ rest) = .ok (clock', rest) := by
  have hscan : scanNumber 1 2 (fixedDigits 2 n ++ rest) = .ok (n, rest) := by
    rw [scanNumber_digits (fun c hc => isDigit_of_mem_fixedDigits hc) (by simp) (by simp)
      (.inl (by simp)), ofDigitChars_fixedDigits hn]
  rw [scan, trimStart_fixedDigits 1, hscan]
  · simp [bind, Except.bind, pure, Except.pure, hset]
  · exact hpart

/-- A year is scanned in front of a hyphen. -/
theorem scan_year (clock : Clock) {year : Int} (hyear : firstYear ≤ year ∧ year ≤ lastYear)
    (rest : List Char) :
    (number .year).scan clock (yearChars year ++ '-' :: rest) =
      .ok ({ clock with year := year }, '-' :: rest) := by
  have htrim : Text.trimStart (yearChars year ++ '-' :: rest) =
      yearChars year ++ '-' :: rest := by
    unfold yearChars
    split
    · exact trimStart_fixedDigits 3 _ _
    · apply Text.trimStart_eq_self
      split <;> simp [Text.isBlank]
  have hset : clock.set .year year = .ok { clock with year := year } := by
    unfold firstYear lastYear at hyear
    exact if_pos (by omega)
  have hscan : scanYear (yearChars year ++ '-' :: rest) = .ok (year, '-' :: rest) :=
    scanYear_yearChars year (by simp)
  rw [scan, htrim, hscan]
  simp [bind, Except.bind, pure, Except.pure, hset]

end LayoutItem

/-! ### Numbers in their places -/

theorem TimeOfDay.clockSecond_le (t : TimeOfDay) : t.clockSecond ≤ 60 := by
  have hsecond := t.second_lt
  unfold clockSecond
  split <;> omega

namespace Clock

theorem set_month (clock : Clock) (d : Date) :
    clock.set .month d.month = .ok { clock with month := d.month } := by
  have hmonth := d.month_bounds
  exact if_pos (by omega)

theorem set_day (clock : Clock) (d : Date) :
    clock.set .day d.day = .ok { clock with day := d.day } := by
  have hday := d.day_bounds
  have hlast := daysInMonth_le d.year d.month
  exact if_pos (by omega)

theorem set_hour (clock : Clock) (t : TimeOfDay) :
    clock.set .hour t.hour = .ok { clock with hour := t.hour } := by
  have hhour := t.hour_lt
  exact if_pos (by omega)

theorem set_minute (clock : Clock) (t : TimeOfDay) :
    clock.set .minute t.minute = .ok { clock with minute := t.minute } := by
  have hminute := t.minute_lt
  exact if_pos (by omega)

theorem set_second (clock : Clock) (t : TimeOfDay) :
    clock.set .second t.clockSecond = .ok { clock with second := t.clockSecond } := by
  have hsecond := t.clockSecond_le
  exact if_pos (by omega)

end Clock

namespace LayoutItem

variable (clock : Clock) (rest : List Char)

theorem scan_month (d : Date) : (number .month).scan clock (fixedDigits 2 d.month ++ rest) =
    .ok ({ clock with month := d.month }, rest) :=
  scan_number (by decide) (by have := d.month_bounds; omega) (clock.set_month d) rest

theorem scan_day (d : Date) : (number .day).scan clock (fixedDigits 2 d.day ++ rest) =
    .ok ({ clock with day := d.day }, rest) := by
  have hday := d.day_bounds.2.trans (daysInMonth_le d.year d.month)
  exact scan_number (by decide) (by omega) (clock.set_day d) rest

theorem scan_hour (t : TimeOfDay) : (number .hour).scan clock (fixedDigits 2 t.hour ++ rest) =
    .ok ({ clock with hour := t.hour }, rest) :=
  scan_number (by decide) (by have := t.hour_lt; omega) (clock.set_hour t) rest

theorem scan_minute (t : TimeOfDay) : (number .minute).scan clock (fixedDigits 2 t.minute ++ rest) =
    .ok ({ clock with minute := t.minute }, rest) :=
  scan_number (by decide) (by have := t.minute_lt; omega) (clock.set_minute t) rest

theorem scan_second (t : TimeOfDay) :
    (number .second).scan clock (fixedDigits 2 t.clockSecond ++ rest) =
      .ok ({ clock with second := t.clockSecond }, rest) :=
  scan_number (by decide) (by have := t.clockSecond_le; omega) (clock.set_second t) rest

end LayoutItem

/-! ### Layouts -/

namespace Layout

/-- A layout goes on behind an item that was scanned. -/
theorem scanFrom_cons {item : LayoutItem} {items : Layout} {clock clock' : Clock}
    {cs rest : List Char} (h : item.scan clock cs = .ok (clock', rest)) :
    scanFrom clock (item :: items) cs = scanFrom clock' items rest := by
  simp [scanFrom, h, bind, Except.bind]

/-- The text of a day is scanned. -/
theorem scanFrom_date (clock : Clock) (items : Layout) (d : Date) (rest : List Char) :
    scanFrom clock (day ++ items) (d.chars ++ rest) =
      scanFrom { clock with year := d.year, month := d.month, day := d.day } items rest := by
  simp only [day, Date.chars, List.cons_append, List.append_assoc, List.nil_append]
  rw [scanFrom_cons (LayoutItem.scan_year _ d.year_bounds _),
    scanFrom_cons (LayoutItem.scan_oneOf _ '-' _), scanFrom_cons (LayoutItem.scan_month _ _ d),
    scanFrom_cons (LayoutItem.scan_oneOf _ '-' _), scanFrom_cons (LayoutItem.scan_day _ _ d)]

/-- The text of a time of day is scanned. -/
theorem scanFrom_time (clock : Clock) (items : Layout) (t : TimeOfDay) (rest : List Char) :
    scanFrom clock (Layout.clock ++ items) (t.chars ++ rest) =
      scanFrom { clock with hour := t.hour, minute := t.minute, second := t.clockSecond }
        items rest := by
  simp only [Layout.clock, TimeOfDay.chars, List.cons_append, List.append_assoc, List.nil_append]
  rw [scanFrom_cons (LayoutItem.scan_hour _ _ t), scanFrom_cons (LayoutItem.scan_oneOf _ ':' _),
    scanFrom_cons (LayoutItem.scan_minute _ _ t), scanFrom_cons (LayoutItem.scan_oneOf _ ':' _),
    scanFrom_cons (LayoutItem.scan_second _ _ t)]

end Layout

end FilterQuery
