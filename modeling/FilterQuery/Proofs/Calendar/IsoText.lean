import FilterQuery.Proofs.Calendar.RoundTrip

namespace FilterQuery

/-!
# Timestamps with their fractions

In JSON a timestamp has as many digits of its fraction as it needs, and is read back to the
nanosecond, as what a clock shows.

* `LayoutItem.scan_fraction` — a printed fraction is scanned;
* `Timestamp.readIso?_isoText` — the text of a timestamp is read back.
-/

/-! ### Items -/

namespace LayoutItem

/-- White space is passed over in front of a character that is none. -/
theorem scan_blank (clock : Clock) {c : Char} (hc : Text.isBlank c = false) (rest : List Char) :
    blank.scan clock (c :: rest) = .ok (clock, c :: rest) := by
  have htrim : Text.trimStart (c :: rest) = c :: rest := Text.trimStart_eq_self (by simpa using hc)
  rw [scan, htrim]

/-- Up to nine digits behind a point are scanned as nanoseconds. -/
theorem scan_fraction_fixedDigits (clock : Clock) {width n nanosecond : Nat} (hpos : 0 < width)
    (hwidth : width ≤ 9) (hn : n < 10 ^ width) (hvalue : n * 10 ^ (9 - width) = nanosecond) :
    fraction.scan clock ('.' :: fixedDigits width n) =
      .ok ({ clock with nanosecond := nanosecond }, []) := by
  have hspan : spanDigits (fixedDigits width n).length (fixedDigits width n ++ []) = _ :=
    spanDigits_digits (fun _ hc => isDigit_of_mem_fixedDigits hc) (Nat.le_refl _) (.inl rfl)
  rw [List.append_nil] at hspan
  have hlength : ((fixedDigits width n).map fun c => c.toNat - '0'.toNat).length = width := by simp
  have hnonempty : ((fixedDigits width n).map fun c => c.toNat - '0'.toNat).isEmpty = false := by
    rw [List.isEmpty_eq_false_iff]
    exact List.ne_nil_of_length_pos (by rw [hlength]; exact hpos)
  rw [scan]
  simp only [hspan, hnonempty, Bool.false_eq_true, if_false]
  rw [ofFraction, hlength, List.take_of_length_le (by rw [hlength]; exact hwidth), ofDigits_map,
    ofDigitChars_fixedDigits hn, ← hvalue]
  rfl

/-- A printed fraction is scanned at the end of a text. -/
theorem scan_fraction {clock : Clock} (hclock : clock.nanosecond = 0) {n : Nat}
    (hn : n < 1000000000) :
    fraction.scan clock (fractionChars n) = .ok ({ clock with nanosecond := n }, []) := by
  rw [fractionChars]
  split
  · next hzero =>
    -- without a fraction the nanoseconds stay as they are
    rw [hzero, ← hclock]
    rfl
  split
  · exact scan_fraction_fixedDigits clock (by decide) (by decide) (by omega) (by omega)
  split
  · exact scan_fraction_fixedDigits clock (by decide) (by decide) (by omega) (by omega)
  · exact scan_fraction_fixedDigits clock (by decide) (by decide) (by omega) (by omega)

end LayoutItem

/-! ### Timestamps -/

namespace Timestamp

/-- The text of a timestamp is scanned for its numbers. -/
theorem scanFrom_iso (t : Timestamp) :
    Layout.iso.scanFrom {} (t.date.chars ++ 'T' :: t.time.chars ++
      fractionChars t.time.clockFraction) = .ok t.numbers := by
  have hfraction : t.time.clockFraction < 1000000000 := Nat.mod_lt _ (by decide)
  simp only [Layout.iso, Date.chars, TimeOfDay.chars, List.cons_append, List.append_assoc]
  rw [Layout.scanFrom_cons (LayoutItem.scan_year _ t.date.year_bounds _),
    Layout.scanFrom_cons (LayoutItem.scan_blank _ (by decide) _),
    Layout.scanFrom_cons (LayoutItem.scan_oneOf _ '-' _),
    Layout.scanFrom_cons (LayoutItem.scan_month _ _ t.date),
    Layout.scanFrom_cons (LayoutItem.scan_blank _ (by decide) _),
    Layout.scanFrom_cons (LayoutItem.scan_oneOf _ '-' _),
    Layout.scanFrom_cons (LayoutItem.scan_day _ _ t.date),
    Layout.scanFrom_cons (LayoutItem.scan_blank _ (by decide) _),
    Layout.scanFrom_cons (LayoutItem.scan_oneOf _ 'T' _),
    Layout.scanFrom_cons (LayoutItem.scan_hour _ _ t.time),
    Layout.scanFrom_cons (LayoutItem.scan_blank _ (by decide) _),
    Layout.scanFrom_cons (LayoutItem.scan_oneOf _ ':' _),
    Layout.scanFrom_cons (LayoutItem.scan_minute _ _ t.time),
    Layout.scanFrom_cons (LayoutItem.scan_blank _ (by decide) _),
    Layout.scanFrom_cons (LayoutItem.scan_oneOf _ ':' _),
    Layout.scanFrom_cons (LayoutItem.scan_second _ _ t.time),
    Layout.scanFrom_cons (LayoutItem.scan_fraction rfl hfraction)]
  rfl

/-- **Timestamps are read back with their fractions.** The text of a timestamp in JSON is read as
    what a clock shows, to the nanosecond. -/
theorem readIso?_isoText (t : Timestamp) : readIso? t.isoText = some t.shown := by
  have hread : Layout.iso.read (t.date.chars ++ 'T' :: t.time.chars ++
      fractionChars t.time.clockFraction) = .ok t.shown := by
    rw [Layout.read, scanFrom_iso]
    exact t.resolve_numbers
  rw [readIso?, isoText, String.toList_ofList, hread]

end Timestamp

end FilterQuery
