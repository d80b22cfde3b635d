import FilterQuery.Proofs.Number.Decimal

namespace FilterQuery

/-!
# Numerals

A numeral is one or more ASCII digits, with a sign in front or without one, and it stands for an
integer of any size.  A reader with bounds takes the numerals of integers within the bounds and
nothing else.

* `Numeral` — the integers that lists of characters stand for;
* `Bounds.Says`, `Bounds.read_eq_ok_iff_says` — what is read of a text;
* `Bounds.fault`, `Bounds.read_eq_error_iff` — why a text is refused;
* `Bounds.SaysPadded`, `Bounds.says_trim_iff` — numerals with white space around them.
-/

/-- The characters are a numeral that stands for an integer. -/
inductive Numeral : List Char → Int → Prop
  | unsigned {ds : List Char} (ne_nil : ds ≠ []) (digits : ∀ c ∈ ds, c.isDigit = true) :
    Numeral ds (Nat.ofDigitChars 10 ds 0)
  | plus {ds : List Char} (ne_nil : ds ≠ []) (digits : ∀ c ∈ ds, c.isDigit = true) :
    Numeral ('+' :: ds) (Nat.ofDigitChars 10 ds 0)
  | minus {ds : List Char} (ne_nil : ds ≠ []) (digits : ∀ c ∈ ds, c.isDigit = true) :
    Numeral ('-' :: ds) (-(Nat.ofDigitChars 10 ds 0 : Int))

namespace Numeral

variable {cs : List Char} {n : Int}

theorem plus_iff :
    Numeral ('+' :: cs) n ↔
      (cs ≠ [] ∧ ∀ c ∈ cs, c.isDigit = true) ∧ n = Nat.ofDigitChars 10 cs 0 := by
  constructor
  · intro h
    cases h with
    | unsigned hne hdigits => cases hdigits '+' List.mem_cons_self
    | plus hne hdigits => exact ⟨⟨hne, hdigits⟩, rfl⟩
  · rintro ⟨⟨hne, hdigits⟩, rfl⟩
    exact .plus hne hdigits

theorem minus_iff :
    Numeral ('-' :: cs) n ↔
      (cs ≠ [] ∧ ∀ c ∈ cs, c.isDigit = true) ∧ n = -(Nat.ofDigitChars 10 cs 0 : Int) := by
  constructor
  · intro h
    cases h with
    | unsigned hne hdigits => cases hdigits '-' List.mem_cons_self
    | minus hne hdigits => exact ⟨⟨hne, hdigits⟩, rfl⟩
  · rintro ⟨⟨hne, hdigits⟩, rfl⟩
    exact .minus hne hdigits

/-- Without a sign a numeral is digits alone. -/
theorem unsigned_iff (hplus : ∀ ds, cs ≠ '+' :: ds) (hminus : ∀ ds, cs ≠ '-' :: ds) :
    Numeral cs n ↔ (cs ≠ [] ∧ ∀ c ∈ cs, c.isDigit = true) ∧ n = Nat.ofDigitChars 10 cs 0 := by
  constructor
  · intro h
    cases h with
    | unsigned hne hdigits => exact ⟨⟨hne, hdigits⟩, rfl⟩
    | plus => exact absurd rfl (hplus _)
    | minus => exact absurd rfl (hminus _)
  · rintro ⟨⟨hne, hdigits⟩, rfl⟩
    exact .unsigned hne hdigits

/-- A numeral has a sign and digits. -/
theorem mem (h : Numeral cs n) {c : Char} (hc : c ∈ cs) : c = '+' ∨ c = '-' ∨ c.isDigit = true := by
  cases h with
  | unsigned _ hdigits => exact .inr (.inr (hdigits c hc))
  | plus _ hdigits => exact (List.mem_cons.mp hc).imp_right fun hc => .inr (hdigits c hc)
  | minus _ hdigits => exact .inr ((List.mem_cons.mp hc).imp_right (hdigits c))

theorem isBlank_eq_false (h : Numeral cs n) {c : Char} (hc : c ∈ cs) : Text.isBlank c = false := by
  obtain rfl | rfl | hdigit := h.mem hc
  · rfl
  · rfl
  · exact Text.isBlank_of_isDigit hdigit

theorem ne_nil (h : Numeral cs n) : cs ≠ [] := by
  cases h with
  | unsigned hne => exact hne
  | plus | minus => exact List.cons_ne_nil _ _

end Numeral

/-- The text of an integer is a numeral for it. -/
theorem numeral_toString (n : Int) : Numeral (toString n).toList n := by
  have hdigits {m : Nat} : ∀ c ∈ Nat.toDigits 10 m, c.isDigit = true := fun c hc =>
    Nat.isDigit_of_mem_toDigits (by decide) (by decide) hc
  cases n with
  | ofNat m =>
    show Numeral (String.ofList (Nat.toDigits 10 m)).toList m
    rw [String.toList_ofList]
    convert Numeral.unsigned Nat.toDigits_ne_nil hdigits
    exact Nat.ofDigitChars_ten_toDigits.symm
  | negSucc m =>
    have htext : (toString (Int.negSucc m)).toList = '-' :: Nat.toDigits 10 (m + 1) := by
      show ("-" ++ String.ofList (Nat.toDigits 10 (m + 1))).toList = _
      rw [String.toList_append, String.toList_ofList (l := Nat.toDigits 10 (m + 1))]
      rfl
    rw [htext]
    convert Numeral.minus Nat.toDigits_ne_nil hdigits
    rw [Nat.ofDigitChars_ten_toDigits]
    rfl

/-! ### Readers -/

namespace Bounds

variable {b : Bounds}

/-- Why characters are refused that are no numeral within the bounds: their digits at the beginning
    are past a bound, or something else stands where a digit has to. -/
def fault (b : Bounds) : List Char → IntegerError
  | [] => .empty
  | '-' :: cs => if -(leadingNumber 0 cs : Int) < b.low then .tooSmall else .invalidDigit
  | '+' :: cs => if b.high < leadingNumber 0 cs then .tooLarge else .invalidDigit
  | cs => if b.high < leadingNumber 0 cs then .tooLarge else .invalidDigit

/-- Behind a sign, or without one, the digits are read away from zero. -/
theorem readChars_plus (b : Bounds) {cs : List Char} (h : cs ≠ []) :
    b.readChars ('+' :: cs) = b.readUp 0 cs := by
  obtain ⟨c, cs, rfl⟩ := List.exists_cons_of_ne_nil h
  rfl

theorem readChars_minus (hlow : b.low < 0) {cs : List Char} (h : cs ≠ []) :
    b.readChars ('-' :: cs) = b.readDown 0 cs := by
  obtain ⟨c, cs, rfl⟩ := List.exists_cons_of_ne_nil h
  exact if_pos hlow

theorem readChars_unsigned (b : Bounds) {cs : List Char} (h : cs ≠ [])
    (hplus : ∀ ds, cs ≠ '+' :: ds) (hminus : ∀ ds, cs ≠ '-' :: ds) :
    b.readChars cs = b.readUp 0 cs := by
  rw [readChars.eq_def]
  split
  · exact absurd rfl h
  · exact absurd rfl (hplus [])
  · exact absurd rfl (hminus [])
  · exact absurd rfl (hplus _)
  · exact absurd rfl (hminus _)
  · rfl

/-- The sign of characters, if they have one. -/
theorem sign_cases (cs : List Char) :
    (∃ ds, cs = '+' :: ds) ∨ (∃ ds, cs = '-' :: ds) ∨
      (∀ ds, cs ≠ '+' :: ds) ∧ ∀ ds, cs ≠ '-' :: ds := by
  grind

/-- Numerals within the bounds are read, and nothing else. -/
theorem readChars_eq_ok_iff (hlow : b.low < 0) (hhigh : 0 ≤ b.high) {cs : List Char} {n : Int} :
    b.readChars cs = .ok n ↔ Numeral cs n ∧ b.Contains n := by
  have hup {ds : List Char} (hne : ds ≠ []) :
      b.readUp 0 ds = .ok n ↔
        ((ds ≠ [] ∧ ∀ c ∈ ds, c.isDigit = true) ∧ n = Nat.ofDigitChars 10 ds 0) ∧ b.Contains n := by
    rw [readUp_eq_ok_iff hhigh, Contains]
    grind
  obtain rfl | hne := eq_or_ne cs []
  · exact ⟨nofun, fun h => absurd rfl h.1.ne_nil⟩
  obtain ⟨ds, rfl⟩ | ⟨ds, rfl⟩ | ⟨hplus, hminus⟩ := sign_cases cs
  · rw [Numeral.plus_iff]
    obtain rfl | hds := eq_or_ne ds []
    · exact ⟨nofun, fun h => absurd rfl h.1.1.1⟩
    · rw [readChars_plus b hds, hup hds]
  · rw [Numeral.minus_iff]
    obtain rfl | hds := eq_or_ne ds []
    · exact ⟨nofun, fun h => absurd rfl h.1.1.1⟩
    · rw [readChars_minus hlow hds, readDown_eq_ok_iff hlow.le, Contains]
      grind
  · rw [Numeral.unsigned_iff hplus hminus, readChars_unsigned b hne hplus hminus, hup hne]

/-- Characters are refused for what is wrong with them. -/
theorem eq_fault_of_readChars (hlow : b.low < 0) (hhigh : 0 ≤ b.high) {cs : List Char}
    {e : IntegerError} (h : b.readChars cs = .error e) : e = b.fault cs := by
  have hup {ds : List Char} (h : b.readUp 0 ds = .error e) :
      e = if b.high < leadingNumber 0 ds then .tooLarge else .invalidDigit := by
    have hread : b.readUp (0 : Nat) ds = _ := readUp_eq ds hhigh
    rw [Int.natCast_zero, h] at hread
    split_ifs at hread ⊢ <;> exact Except.error.inj hread
  have hdown {ds : List Char} (h : b.readDown 0 ds = .error e) :
      e = if -(leadingNumber 0 ds : Int) < b.low then .tooSmall else .invalidDigit := by
    have hread : b.readDown (-(0 : Nat) : Int) ds = _ := readDown_eq ds hlow.le
    rw [Int.natCast_zero, Int.neg_zero, h] at hread
    split_ifs at hread ⊢ <;> exact Except.error.inj hread
  obtain rfl | hne := eq_or_ne cs []
  · exact (Except.error.inj h).symm
  obtain ⟨ds, rfl⟩ | ⟨ds, rfl⟩ | ⟨hplus, hminus⟩ := sign_cases cs
  · obtain rfl | hds := eq_or_ne ds []
    · obtain rfl := Except.error.inj h
      exact (if_neg (not_lt.mpr hhigh)).symm
    · exact hup (readChars_plus b hds ▸ h)
  · obtain rfl | hds := eq_or_ne ds []
    · obtain rfl := Except.error.inj h
      exact (if_neg (not_lt.mpr hlow.le)).symm
    · exact hdown (readChars_minus hlow hds ▸ h)
  · rw [readChars_unsigned b hne hplus hminus] at h
    have hfault : b.fault cs =
        if b.high < leadingNumber 0 cs then .tooLarge else .invalidDigit := by
      rw [fault.eq_def]
      split
      · exact absurd rfl hne
      · exact absurd rfl (hminus _)
      · exact absurd rfl (hplus _)
      · rfl
    rw [hup h, hfault]

/-- The text is a numeral for an integer within the bounds. -/
def Says (b : Bounds) (s : String) (n : Int) : Prop := Numeral s.toList n ∧ b.Contains n

theorem read_eq_ok_iff_says (hlow : b.low < 0) (hhigh : 0 ≤ b.high) {s : String} {n : Int} :
    b.read s = .ok n ↔ b.Says s n := readChars_eq_ok_iff hlow hhigh

/-- A text is refused exactly where it says no integer within the bounds. -/
theorem read_eq_error_iff (hlow : b.low < 0) (hhigh : 0 ≤ b.high) {s : String}
    {e : IntegerError} :
    b.read s = .error e ↔ (¬∃ n, b.Says s n) ∧ e = b.fault s.toList := by
  simp only [← read_eq_ok_iff_says hlow hhigh]
  cases hread : b.read s with
  | ok n => simp
  | error e' =>
    have hfault := eq_fault_of_readChars hlow hhigh hread
    simp [hfault, eq_comm]

end Bounds

/-! ### White space -/

namespace Text

/-- A text is made of characters and white space around them. -/
def Pads (s : String) (cs : List Char) : Prop :=
  ∃ before after, s.toList = before ++ cs ++ after ∧
    (∀ c ∈ before, isBlank c = true) ∧ ∀ c ∈ after, isBlank c = true

/-- What is dropped at the ends of a text is white space. -/
theorem pads_trim (s : String) : Pads s (trim s).toList := by
  let rest := (trimStart s.toList).reverse
  have hblank {cs : List Char} : ∀ c ∈ cs.takeWhile isBlank, isBlank c = true := fun c hc =>
    List.mem_takeWhile_imp hc
  refine ⟨s.toList.takeWhile isBlank, (rest.takeWhile isBlank).reverse, ?_, hblank, ?_⟩
  · calc s.toList
        = s.toList.takeWhile isBlank ++ trimStart s.toList :=
          (List.takeWhile_append_dropWhile ..).symm
      _ = s.toList.takeWhile isBlank ++ (rest.takeWhile isBlank ++ trimStart rest).reverse := by
          rw [show rest.takeWhile isBlank ++ trimStart rest = rest from
            List.takeWhile_append_dropWhile, List.reverse_reverse]
      _ = _ := by
          rw [List.reverse_append, ← List.append_assoc, trim, String.toList_ofList]
  · exact fun c hc => hblank c (List.mem_reverse.mp hc)

/-- White space around characters that are none is dropped. -/
theorem trim_of_pads {s : String} {cs : List Char} (h : Pads s cs)
    (hcs : ∀ c ∈ cs, isBlank c = false) : trim s = String.ofList cs := by
  obtain ⟨before, after, hs, hbefore, hafter⟩ := h
  have hdrop {ds es : List Char} (hds : ∀ c ∈ ds, isBlank c = true) :
      trimStart (ds ++ es) = trimStart es := List.dropWhile_append_of_pos hds
  have hstart : trimStart s.toList = trimStart (cs ++ after) := by
    rw [hs, List.append_assoc, hdrop hbefore]
  rw [trim, hstart]
  obtain rfl | hne := eq_or_ne cs []
  · have hall : trimStart after = [] := List.dropWhile_eq_nil_iff.mpr hafter
    rw [List.nil_append, hall]
    rfl
  · -- neither the first nor the last of the characters is dropped
    have hfirst : trimStart (cs ++ after) = cs ++ after := by
      obtain ⟨c, cs, rfl⟩ := List.exists_cons_of_ne_nil hne
      apply trimStart_eq_self
      rintro _ ⟨⟩
      exact hcs c List.mem_cons_self
    have hlast : trimStart cs.reverse = cs.reverse :=
      trimStart_eq_self fun c hc => hcs c (List.mem_reverse.mp (List.mem_of_mem_head? hc))
    rw [hfirst, List.reverse_append, hdrop fun c hc => hafter c (List.mem_reverse.mp hc), hlast,
      List.reverse_reverse]

end Text

/-- The text is a numeral for an integer within the bounds, with white space around it. -/
def Bounds.SaysPadded (b : Bounds) (s : String) (n : Int) : Prop :=
  ∃ cs, Text.Pads s cs ∧ Numeral cs n ∧ b.Contains n

/-- A text says an integer behind and before white space exactly where it does without it. -/
theorem Bounds.says_trim_iff {b : Bounds} {s : String} {n : Int} :
    b.Says (Text.trim s) n ↔ b.SaysPadded s n := by
  constructor
  · rintro ⟨hnumeral, hbounds⟩
    exact ⟨_, Text.pads_trim s, hnumeral, hbounds⟩
  · rintro ⟨cs, hpads, hnumeral, hbounds⟩
    rw [Text.trim_of_pads hpads fun c hc => hnumeral.isBlank_eq_false hc]
    exact ⟨by rwa [String.toList_ofList], hbounds⟩

end FilterQuery
