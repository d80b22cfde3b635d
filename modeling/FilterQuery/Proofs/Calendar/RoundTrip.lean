import FilterQuery.Proofs.Calendar.Printed
import FilterQuery.Proofs.Steps

namespace FilterQuery

/-!
# Timestamps and their texts

The text of a timestamp is read back as the second that a clock shows.  In all years and also in
the leap second at the end of a minute, that is the timestamp without its fraction of a second.

* `Timestamp.resolve_numbers` — the numbers that a clock shows name the timestamp that it shows;
* `Timestamp.isRegular_of_read` — a timestamp that is read is one that a clock shows as it is;
* `Timestamp.text_roundTrip` — what writing and reading lose.
-/

/-! ### Times of day -/

namespace TimeOfDay

/-- A time that a clock shows as it is, is what its own numbers give. -/
theorem of?_self {t : TimeOfDay} (h : t.IsRegular) :
    of? t.hour t.minute t.second t.nanosecond = some t := by
  have hnanosecond : t.nanosecond < 1000000000 ∨ (t.nanosecond < 2000000000 ∧ t.second = 59) :=
    h.imp_right fun hlast => ⟨t.nanosecond_lt, hlast⟩
  rw [of?, dif_pos t.hour_lt, dif_pos t.minute_lt, dif_pos t.second_lt, dif_pos hnanosecond]

/-- A time of given numbers is one that a clock shows as it is. -/
theorem isRegular_of_of? {hour minute second nanosecond : Nat} {t : TimeOfDay}
    (h : of? hour minute second nanosecond = some t) : t.IsRegular := by
  unfold of? at h
  split_ifs at h with hhour hminute hsecond hnanosecond
  cases h
  exact hnanosecond.imp_right And.right

theorem isRegular_of_ofClock? {hour minute second nanosecond : Nat} {t : TimeOfDay}
    (h : ofClock? hour minute second nanosecond = some t) : t.IsRegular := by
  unfold ofClock? at h
  split at h <;> exact isRegular_of_of? h

/-- The numbers that a clock shows with the fraction of the second name the time that it shows. -/
theorem ofClock?_clockFraction (t : TimeOfDay) :
    ofClock? t.hour t.minute t.clockSecond t.clockFraction = some t.shown := by
  rw [← shown_hour, ← shown_minute, ← clockSecond_shown, ← clockFraction_shown]
  have hregular := t.isRegular_shown
  have hself := of?_self hregular
  have hsecond := t.shown.second_lt
  have hnanosecond := t.shown.nanosecond_lt
  unfold ofClock? clockSecond clockFraction
  by_cases hleap : t.shown.nanosecond < 1000000000
  · rw [if_pos hleap, if_neg (by omega), Nat.mod_eq_of_lt hleap]
    exact hself
  · have hlast : t.shown.second = 59 := hregular.resolve_left hleap
    have hfraction : t.shown.nanosecond % 1000000000 + 1000000000 = t.shown.nanosecond := by omega
    rw [hlast] at hself
    rw [if_neg hleap, if_pos (by omega), hfraction]
    exact hself

/-- A time is in its own minute. -/
theorem atMinute_self (t : TimeOfDay) : t.atMinute (t.hour * 60 + t.minute) = t := by
  have hhour := t.hour_lt
  have hminute := t.minute_lt
  have hhour' : (t.hour * 60 + t.minute) / 60 % 24 = t.hour := by omega
  have hminute' : (t.hour * 60 + t.minute) % 60 = t.minute := by omega
  simp only [atMinute, hhour', hminute']

end TimeOfDay

/-! ### Timestamps -/

namespace Timestamp

/-- A timestamp that is not moved stays as it is. -/
theorem shift?_zero (t : Timestamp) : t.shift? 0 = some t := by
  have hhour := t.time.hour_lt
  have hminute := t.time.minute_lt
  have hclock : (t.time.hour : Int) * 60 + t.time.minute - 0 =
      ((t.time.hour * 60 + t.time.minute : Nat) : Int) := by push_cast; ring
  have hday : (((t.time.hour * 60 + t.time.minute : Nat) : Int) % 1440).toNat =
      t.time.hour * 60 + t.time.minute := by omega
  rw [shift?]
  simp only [hclock, hday, TimeOfDay.atMinute_self]
  rw [if_neg (by omega), if_pos (by omega)]
  rfl

/-- A timestamp is moved by whole minutes, so its second stays. -/
theorem isRegular_shift? {t u : Timestamp} {minutes : Int} (h : t.shift? minutes = some u)
    (ht : t.IsRegular) : u.IsRegular := by
  obtain ⟨date, -, rfl⟩ := Option.map_eq_some_iff.mp h
  exact ht

/-- The numbers that a clock shows of a timestamp. -/
def numbers (t : Timestamp) : Clock where
  year := t.date.year
  month := t.date.month
  day := t.date.day
  hour := t.time.hour
  minute := t.time.minute
  second := t.time.clockSecond
  nanosecond := t.time.clockFraction

/-- The numbers that a clock shows name the timestamp that it shows. -/
theorem resolve_numbers (t : Timestamp) : t.numbers.resolve = .ok t.shown := by
  have htime : TimeOfDay.ofClock? t.numbers.hour t.numbers.minute t.numbers.second
      t.numbers.nanosecond = some t.time.shown := t.time.ofClock?_clockFraction
  have hdate : Date.of? t.numbers.year t.numbers.month t.numbers.day = some t.date :=
    t.date.of?_self
  have hstays : (Timestamp.mk t.date t.time.shown).shift? t.numbers.offset = some t.shown :=
    shift?_zero t.shown
  simp only [Clock.resolve, hdate, htime, hstays]

/-- The timestamp that a clock shows has the same numbers. -/
theorem numbers_shown (t : Timestamp) : t.shown.numbers = t.numbers := by
  show Clock.mk _ _ _ t.time.shown.hour t.time.shown.minute t.time.shown.clockSecond
    t.time.shown.clockFraction _ = _
  rw [TimeOfDay.shown_hour, TimeOfDay.shown_minute, TimeOfDay.clockSecond_shown,
    TimeOfDay.clockFraction_shown]
  rfl

/-- Without its fraction a timestamp shows the same second, from its start. -/
theorem numbers_truncate (t : Timestamp) :
    t.truncate.numbers = { t.numbers with nanosecond := 0 } := by
  have hfraction : t.time.truncate.clockFraction = 0 := by
    show (t.time.nanosecond - t.time.nanosecond % 1000000000) % 1000000000 = 0
    omega
  show Clock.mk _ _ _ _ _ t.time.truncate.clockSecond t.time.truncate.clockFraction _ = _
  rw [TimeOfDay.clockSecond_truncate, hfraction]
  rfl

/-- The text of a timestamp is scanned for its numbers. -/
theorem scanFrom_chars (t : Timestamp) :
    Layout.stored.scanFrom {} t.chars = .ok t.truncate.numbers := by
  have hblank (clock : Clock) :
      LayoutItem.blank.scan clock (' ' :: t.time.chars) = .ok (clock, t.time.chars) := by
    have hdigits : Text.trimStart t.time.chars = t.time.chars := by
      unfold TimeOfDay.chars
      rw [List.append_assoc]
      exact trimStart_fixedDigits 1 _ _
    show Except.ok (clock, Text.trimStart t.time.chars) = _
    rw [hdigits]
  have htime (clock : Clock) := Layout.scanFrom_time clock [] t.time []
  simp only [List.append_nil] at htime
  rw [Layout.stored, chars, List.append_assoc, Layout.scanFrom_date, List.singleton_append,
    Layout.scanFrom_cons (hblank _), htime, numbers_truncate]
  rfl

/-- The text of a timestamp is read as the second that a clock shows. -/
theorem read_text (t : Timestamp) : read t.text = .ok t.shownSecond := by
  have hread : Layout.stored.read t.chars = .ok t.shownSecond := by
    rw [Layout.read, scanFrom_chars]
    exact t.truncate.resolve_numbers
  rw [read, text, String.toList_ofList, readChars, hread]
  rfl

/-- Numbers name a timestamp that a clock shows as it is. -/
theorem isRegular_of_resolve {clock : Clock} {t : Timestamp} (h : clock.resolve = .ok t) :
    t.IsRegular := by
  rw [Clock.resolve] at h
  split at h
  · next date time hdate htime =>
    split at h
    · next u hshift =>
      obtain rfl := Except.ok.inj h
      exact isRegular_shift? hshift (TimeOfDay.isRegular_of_ofClock? htime)
    · cases h
  · cases h

theorem isRegular_of_layout {layout : Layout} {cs : List Char} {t : Timestamp}
    (h : layout.read cs = .ok t) : t.IsRegular := by
  rw [Layout.read] at h
  cases hscan : layout.scanFrom {} cs with
  | error e => simp [hscan, bind, Except.bind] at h
  | ok clock =>
    rw [hscan] at h
    exact isRegular_of_resolve h

/-- What is read of a text is a timestamp that a clock shows as it is. -/
theorem isRegular_of_read {s : String} {t : Timestamp} (h : read s = .ok t) : t.IsRegular := by
  have hread : readChars s.toList = .ok t := mapError_eq_ok_iff.mp h
  unfold readChars at hread
  split at hread
  · next hstored =>
    obtain rfl := Except.ok.inj hread
    exact isRegular_of_layout hstored
  · split at hread
    · next hrfc =>
      obtain rfl := Except.ok.inj hread
      exact isRegular_of_layout hrfc
    · exact isRegular_of_layout hread

/-- **Texts of timestamps.** The text of a timestamp is read as the second that a clock shows.  In
    every year, also one with a sign, and in a leap second at the end of a minute that is the
    timestamp without its fraction of a second.  In any other leap second it is the start of the
    second that follows.  So what is read of any text, written and read again, is cut to the
    second; and two timestamps have the same text exactly where a clock shows the same second. -/
theorem text_roundTrip :
    (∀ t : Timestamp, read t.text = .ok t.shownSecond ∧
      t.shownSecond.numbers = { t.numbers with nanosecond := 0 }) ∧
    (∀ t : Timestamp, t.IsRegular → read t.text = .ok t.truncate) ∧
    (∀ t : Timestamp, ¬t.IsRegular → t.shownSecond.date = t.date ∧
      t.shownSecond.time.seconds = t.time.seconds + 1 ∧ t.shownSecond.time.nanosecond = 0) ∧
    (∀ s : String, (read s >>= fun t => read t.text) = (read s).map truncate) ∧
    ∀ s t : Timestamp, s.text = t.text ↔ s.shownSecond = t.shownSecond := by
  have hregular (t : Timestamp) (ht : t.IsRegular) : read t.text = .ok t.truncate := by
    rw [read_text, shownSecond_eq_truncate ht]
  refine ⟨fun t => ⟨read_text t, ?_⟩, hregular, fun t ht => ?_, fun s => ?_, fun s t => ?_⟩
  · rw [← numbers_truncate]
    exact t.truncate.numbers_shown
  · exact ⟨rfl, TimeOfDay.seconds_shown_truncate ht, TimeOfDay.nanosecond_shown_truncate ht⟩
  · cases h : read s with
    | error e => rfl
    | ok t => exact hregular t (isRegular_of_read h)
  · constructor
    · intro h
      -- a text has one reading
      have hread := read_text s
      rw [h, read_text t] at hread
      exact (Except.ok.inj hread).symm
    · intro h
      rw [← text_shownSecond s, h, text_shownSecond t]

/-- Two leap seconds before year 0: the one at the end of a minute is read back, and the other as
    the second behind it. -/
theorem text_roundTrip_leapSecond :
    let leap : Timestamp := ⟨⟨-1, 12, 31, by decide, by decide, by decide⟩,
      ⟨10, 20, 59, 1750000000, by decide, by decide, by decide, by decide⟩⟩
    let other : Timestamp := ⟨leap.date,
      ⟨10, 20, 15, 1750000000, by decide, by decide, by decide, by decide⟩⟩
    leap.text = "-0001-12-31 10:20:60" ∧ read leap.text = .ok leap.truncate ∧
      other.shownSecond.time.seconds = other.time.seconds + 1 := by
  intro leap other
  obtain ⟨-, hregular, hother, -, -⟩ := text_roundTrip
  exact ⟨by decide, hregular leap (by decide), (hother other (by decide)).2.1⟩

/-- The leap second after second 15 is read back as the start of second 16. -/
theorem text_roundTrip_irregular :
    let t : Timestamp := ⟨⟨2024, 1, 1, by decide, by decide, by decide⟩,
      ⟨12, 30, 15, 1500000000, by decide, by decide, by decide, by decide⟩⟩
    t.text = "2024-01-01 12:30:16" ∧ read t.text ≠ .ok t.truncate := by
  intro t
  exact ⟨by decide, by decide⟩

theorem mem_yearChars {year : Int} {c : Char} (h : c ∈ yearChars year) :
    c ∈ ['-', '+'] ∨ c.isDigit = true := by
  unfold yearChars at h
  split at h
  · exact .inr (isDigit_of_mem_fixedDigits h)
  · obtain rfl | h := List.mem_cons.mp h
    · left
      split <;> decide
    · exact .inr (isDigit_of_mem_paddedDigits h)

/-- The text of a timestamp has digits and signs between them. -/
theorem mem_chars {t : Timestamp} {c : Char} (h : c ∈ t.chars) :
    c ∈ ['-', '+', ':', ' '] ∨ c.isDigit = true := by
  simp only [chars, Date.chars, TimeOfDay.chars, List.mem_append, List.mem_cons] at h
  have hfixed {width n : Nat} (h : c ∈ fixedDigits width n) :
      c ∈ ['-', '+', ':', ' '] ∨ c.isDigit = true := .inr (isDigit_of_mem_fixedDigits h)
  obtain ((h | rfl | h) | rfl | h) | rfl | (h | rfl | h) | rfl | h := h
  · obtain h | h := mem_yearChars h
    · exact .inl (List.mem_append_left [':', ' '] h)
    · exact .inr h
  all_goals first | exact hfixed h | exact .inl (by decide)

end Timestamp

end FilterQuery
