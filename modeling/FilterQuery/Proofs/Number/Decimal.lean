import FilterQuery.Number.Integer
import FilterQuery.Text.Blank
import Mathlib.Data.List.TakeWhile
import Mathlib.Data.Nat.Digits.Defs

namespace FilterQuery

/-!
# Decimal texts

* `Bounds.readUp_eq`, `Bounds.readDown_eq` — what comes of digits, with any text behind them;
* `Bounds.read_toString` — an integer within the bounds is read back from its text;
* `Bounds.read_trim_toString` — a natural number within the bounds is read back from its
  text, as parameters are.
-/

/-- More digits make a number larger. -/
theorem le_ofDigitChars (ds : List Char) (init : Nat) : init ≤ Nat.ofDigitChars 10 ds init := by
  induction ds generalizing init with
  | nil => exact le_refl _
  | cons c cs ih =>
    rw [Nat.ofDigitChars_cons]
    have hstep := ih (10 * init + (c.toNat - '0'.toNat))
    omega

/-- A digit is none of the other characters. -/
theorem ne_of_isDigit {c d : Char} (hc : c.isDigit = true) (hd : d.isDigit = false) : c ≠ d := by
  rintro rfl
  rw [hc] at hd
  cases hd

/-- The number that the digits at the beginning stand for. -/
def leadingNumber (acc : Nat) (cs : List Char) : Nat :=
  Nat.ofDigitChars 10 (cs.takeWhile Char.isDigit) acc

theorem leadingNumber_of_digits {cs : List Char} (h : ∀ c ∈ cs, c.isDigit = true) (acc : Nat) :
    leadingNumber acc cs = Nat.ofDigitChars 10 cs acc := by
  rw [leadingNumber, List.takeWhile_eq_self_iff.mpr h]

theorem leadingNumber_cons_of_isDigit {c : Char} (h : c.isDigit = true) (acc : Nat)
    (cs : List Char) :
    leadingNumber acc (c :: cs) = leadingNumber (10 * acc + (c.toNat - '0'.toNat)) cs := by
  rw [leadingNumber, List.takeWhile_cons_of_pos h, Nat.ofDigitChars_cons, leadingNumber]

theorem leadingNumber_cons_of_not_isDigit {c : Char} (h : c.isDigit = false) (acc : Nat)
    (cs : List Char) : leadingNumber acc (c :: cs) = acc := by
  rw [leadingNumber, List.takeWhile_cons_of_neg (by rw [h]; exact Bool.false_ne_true)]
  rfl

theorem le_leadingNumber (acc : Nat) (cs : List Char) : acc ≤ leadingNumber acc cs :=
  le_ofDigitChars _ acc

namespace Bounds

variable {b : Bounds}

/-- Digits are too large where the number that they stand for is, whatever stands behind them;
    else nothing may stand behind them. -/
theorem readUp_eq (cs : List Char) {acc : Nat} (hacc : (acc : Int) ≤ b.high) :
    b.readUp acc cs =
      if b.high < leadingNumber acc cs then .error .tooLarge
      else if cs.all Char.isDigit then .ok (leadingNumber acc cs)
      else .error .invalidDigit := by
  induction cs generalizing acc with
  | nil =>
    rw [if_neg (show ¬b.high < leadingNumber acc [] from not_lt.mpr hacc), if_pos List.all_nil]
    rfl
  | cons c cs ih =>
    rw [readUp, digit?]
    cases hc : c.isDigit with
    | false =>
      rw [leadingNumber_cons_of_not_isDigit hc, if_neg (not_lt.mpr hacc)]
      simp [hc]
    | true =>
      have hnext : 10 * (acc : Int) + ((c.toNat - '0'.toNat : Nat) : Int) =
          ((10 * acc + (c.toNat - '0'.toNat) : Nat) : Int) := by push_cast; rfl
      have hle := le_leadingNumber (10 * acc + (c.toNat - '0'.toNat)) cs
      rw [leadingNumber_cons_of_isDigit hc]
      simp only [if_true, hnext, List.all_cons, hc, Bool.true_and]
      by_cases hhigh : ((10 * acc + (c.toNat - '0'.toNat) : Nat) : Int) ≤ b.high
      · rw [if_pos hhigh, ih hhigh]
      · rw [if_neg hhigh, if_pos (by omega)]

/-- The same behind a minus sign. -/
theorem readDown_eq (cs : List Char) {acc : Nat} (hacc : b.low ≤ -(acc : Int)) :
    b.readDown (-(acc : Int)) cs =
      if -(leadingNumber acc cs : Int) < b.low then .error .tooSmall
      else if cs.all Char.isDigit then .ok (-(leadingNumber acc cs : Int))
      else .error .invalidDigit := by
  induction cs generalizing acc with
  | nil =>
    rw [if_neg (show ¬-(leadingNumber acc [] : Int) < b.low from not_lt.mpr hacc),
      if_pos List.all_nil]
    rfl
  | cons c cs ih =>
    rw [readDown, digit?]
    cases hc : c.isDigit with
    | false =>
      rw [leadingNumber_cons_of_not_isDigit hc, if_neg (not_lt.mpr hacc)]
      simp [hc]
    | true =>
      have hnext : 10 * -(acc : Int) - ((c.toNat - '0'.toNat : Nat) : Int) =
          -((10 * acc + (c.toNat - '0'.toNat) : Nat) : Int) := by push_cast; ring
      have hle := le_leadingNumber (10 * acc + (c.toNat - '0'.toNat)) cs
      rw [leadingNumber_cons_of_isDigit hc]
      simp only [if_true, hnext, List.all_cons, hc, Bool.true_and]
      by_cases hlow : b.low ≤ -((10 * acc + (c.toNat - '0'.toNat) : Nat) : Int)
      · rw [if_pos hlow, ih hlow]
      · rw [if_neg hlow, if_pos (by omega)]

/-- Digits are read as the number that they stand for, if it is within the bounds. -/
theorem readUp_eq_ok_iff (hhigh : 0 ≤ b.high) {cs : List Char} {n : Int} :
    b.readUp 0 cs = .ok n ↔
      (∀ c ∈ cs, c.isDigit = true) ∧ n = Nat.ofDigitChars 10 cs 0 ∧ n ≤ b.high := by
  have hread : b.readUp (0 : Nat) cs = _ := readUp_eq cs hhigh
  rw [Int.natCast_zero] at hread
  rw [hread]
  by_cases hdigits : ∀ c ∈ cs, c.isDigit = true
  · rw [leadingNumber_of_digits hdigits, if_pos (List.all_eq_true.mpr hdigits)]
    split_ifs <;> simp <;> grind
  · rw [if_neg fun h => hdigits (List.all_eq_true.mp h)]
    split_ifs <;> simp [hdigits]

/-- Digits behind a minus sign are read as the number that they stand for, if it is within the
    bounds. -/
theorem readDown_eq_ok_iff (hlow : b.low ≤ 0) {cs : List Char} {n : Int} :
    b.readDown 0 cs = .ok n ↔
      (∀ c ∈ cs, c.isDigit = true) ∧ n = -(Nat.ofDigitChars 10 cs 0 : Int) ∧ b.low ≤ n := by
  have hread : b.readDown (-(0 : Nat) : Int) cs = _ := readDown_eq cs hlow
  rw [Int.natCast_zero, Int.neg_zero] at hread
  rw [hread]
  by_cases hdigits : ∀ c ∈ cs, c.isDigit = true
  · rw [leadingNumber_of_digits hdigits, if_pos (List.all_eq_true.mpr hdigits)]
    split_ifs <;> simp <;> grind
  · rw [if_neg fun h => hdigits (List.all_eq_true.mp h)]
    split_ifs <;> simp [hdigits]

theorem readChars_toDigits {b : Bounds} {n : Nat} (h : (n : Int) ≤ b.high) :
    b.readChars (Nat.toDigits 10 n) = .ok (n : Int) := by
  have hdigits : ∀ c ∈ Nat.toDigits 10 n, c.isDigit = true := fun c hc =>
    Nat.isDigit_of_mem_toDigits (by decide) (by decide) hc
  have hread : b.readUp 0 (Nat.toDigits 10 n) = .ok (n : Int) :=
    (readUp_eq_ok_iff (by omega)).mpr ⟨hdigits, by rw [Nat.ofDigitChars_ten_toDigits], h⟩
  -- the first character is a digit, so it is no sign
  obtain ⟨c, cs, hcs⟩ := List.exists_cons_of_ne_nil (Nat.toDigits_ne_nil (n := n) (b := 10))
  rw [hcs] at hread hdigits ⊢
  have hc := hdigits c List.mem_cons_self
  have hplus : c ≠ '+' := ne_of_isDigit hc rfl
  have hminus : c ≠ '-' := ne_of_isDigit hc rfl
  rw [readChars.eq_def]
  split <;> simp_all

theorem readChars_minus_toDigits {b : Bounds} {n : Nat} (hn : n ≠ 0)
    (h : b.low ≤ -(n : Int)) : b.readChars ('-' :: Nat.toDigits 10 n) = .ok (-(n : Int)) := by
  have hdigits : ∀ c ∈ Nat.toDigits 10 n, c.isDigit = true := fun c hc =>
    Nat.isDigit_of_mem_toDigits (by decide) (by decide) hc
  have hread : b.readDown 0 (Nat.toDigits 10 n) = .ok (-(n : Int)) :=
    (readDown_eq_ok_iff (by omega)).mpr ⟨hdigits, by rw [Nat.ofDigitChars_ten_toDigits], h⟩
  obtain ⟨c, cs, hcs⟩ := List.exists_cons_of_ne_nil (Nat.toDigits_ne_nil (n := n) (b := 10))
  rw [hcs] at hread ⊢
  show (if b.low < 0 then b.readDown 0 (c :: cs) else .error .invalidDigit) = _
  rw [if_pos (by omega), hread]

/-- What is read lies within the bounds, if zero does. -/
theorem contains_of_read {b : Bounds} {s : String} {n : Int} (hzero : b.Contains 0)
    (h : b.read s = .ok n) : b.Contains n := by
  have hup {cs : List Char} (h : b.readUp 0 cs = .ok n) : b.Contains n := by
    obtain ⟨-, hn, hhigh⟩ := (readUp_eq_ok_iff hzero.2).mp h
    exact ⟨hzero.1.trans (by omega), hhigh⟩
  rw [read, readChars.eq_def] at h
  split at h
  · cases h
  · cases h
  · cases h
  · exact hup h
  · split at h
    · obtain ⟨-, hn, hlow⟩ := (readDown_eq_ok_iff hzero.1).mp h
      exact ⟨hlow, le_trans (by omega) hzero.2⟩
    · cases h
  · exact hup h

/-- An integer within the bounds is read back from its text. -/
theorem read_toString {b : Bounds} {n : Int} (h : b.Contains n) :
    b.read (toString n) = .ok n := by
  cases n with
  | ofNat m =>
    show b.readChars (String.ofList (Nat.toDigits 10 m)).toList = .ok (m : Int)
    rw [String.toList_ofList]
    exact readChars_toDigits h.2
  | negSucc m =>
    have htext : (toString (Int.negSucc m)).toList = '-' :: Nat.toDigits 10 (m + 1) := by
      show ("-" ++ String.ofList (Nat.toDigits 10 (m + 1))).toList = _
      rw [String.toList_append, String.toList_ofList (l := Nat.toDigits 10 (m + 1))]
      rfl
    rw [read, htext]
    exact readChars_minus_toDigits (Nat.succ_ne_zero m) h.1

end Bounds

/-- White space is only dropped where there is some in front. -/
theorem Text.trimStart_eq_self {cs : List Char} (h : ∀ c ∈ cs.head?, isBlank c = false) :
    trimStart cs = cs := by
  cases cs with
  | nil => rfl
  | cons c cs =>
    have hc : ¬isBlank c = true := by rw [h c rfl]; decide
    exact List.dropWhile_cons_of_neg hc

/-- A text without white space stays as it is. -/
theorem Text.trim_eq_self {s : String} (h : ∀ c ∈ s.toList, isBlank c = false) : trim s = s := by
  have hstart : ∀ c ∈ s.toList.head?, isBlank c = false := fun c hc =>
    h c (List.mem_of_mem_head? hc)
  have hreverse : ∀ c ∈ s.toList.reverse.head?, isBlank c = false := fun c hc =>
    h c (List.mem_reverse.mp (List.mem_of_mem_head? hc))
  rw [trim, trimStart_eq_self hstart, trimStart_eq_self hreverse, List.reverse_reverse,
    String.ofList_toList]

theorem Text.isBlank_of_isDigit {c : Char} (h : c.isDigit = true) : isBlank c = false := by
  simp only [Char.isDigit, Bool.and_eq_true, decide_eq_true_eq] at h
  have hlow : 48 ≤ c.toNat := UInt32.le_iff_toNat_le.mp h.1
  have hhigh : c.toNat ≤ 57 := UInt32.le_iff_toNat_le.mp h.2
  simp only [isBlank, Bool.or_eq_false_iff, Bool.and_eq_false_iff, beq_eq_false_iff_ne,
    decide_eq_false_iff_not]
  omega

theorem Text.isAlpha_of_isDigit {c : Char} (h : c.isDigit = true) : c.isAlpha = false := by
  simp only [Char.isDigit, Bool.and_eq_true, decide_eq_true_eq] at h
  have hhigh : c.toNat ≤ 57 := UInt32.le_iff_toNat_le.mp h.2
  show (decide (c.val ≥ 65 ∧ c.val ≤ 90) || (c.val ≥ 97 && c.val ≤ 122)) = false
  simp [UInt32.le_iff_toNat_le]
  omega

/-- The text of an integer has digits, behind a minus sign where it is negative. -/
theorem mem_toString_int {n : Int} {c : Char} (h : c ∈ (toString n).toList) :
    c = '-' ∨ c.isDigit = true := by
  have hdigits {m : Nat} (h : c ∈ (String.ofList (Nat.toDigits 10 m)).toList) :
      c.isDigit = true := by
    rw [String.toList_ofList] at h
    exact Nat.isDigit_of_mem_toDigits (by decide) (by decide) h
  cases n with
  | ofNat m => exact .inr (hdigits h)
  | negSucc m =>
    have hcons : c ∈ ("-" ++ String.ofList (Nat.toDigits 10 (m + 1))).toList := h
    rw [String.toList_append, List.mem_append] at hcons
    exact hcons.imp (fun hsign => List.mem_singleton.mp hsign) hdigits

theorem toString_int_ne_empty (n : Int) : toString n ≠ "" := by
  intro hempty
  have hread := Bounds.read_toString (b := ⟨n, n⟩) ⟨le_refl n, le_refl n⟩
  rw [hempty] at hread
  cases hread

/-- A natural number within the bounds is read back from its text. -/
theorem Bounds.read_trim_toString {b : Bounds} {n : Nat} (h : (n : Int) ≤ b.high) :
    b.read (Text.trim (toString n)) = .ok (n : Int) := by
  have htext : (toString n : String) = String.ofList (Nat.toDigits 10 n) := rfl
  have hblank : ∀ c ∈ (toString n : String).toList, Text.isBlank c = false := by
    rw [htext, String.toList_ofList]
    exact fun c hc =>
      Text.isBlank_of_isDigit (Nat.isDigit_of_mem_toDigits (by decide) (by decide) hc)
  rw [Text.trim_eq_self hblank, htext, read, String.toList_ofList]
  exact readChars_toDigits h

end FilterQuery
