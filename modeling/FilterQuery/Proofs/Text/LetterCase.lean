import FilterQuery.Text.Ascii

namespace FilterQuery

/-!
# The case of letters

Only ASCII letters have a letter case, so facts about it are settled by going through the ASCII
characters.  (Batteries has some of these facts, in a file that no part of Mathlib imports.)

* `Text.forall_of_ascii` — what holds of ASCII characters and of characters without letter case
  holds of all;
* `Text.toLower_eq_iff`, `Text.toUpper_eq_iff` — only a letter becomes another character;
* `Text.sameIgnoringCase_iff_lower`, `Text.lower_lower`, `Text.upper_lower` — texts in lower case.
-/

namespace Text

variable {c d : Char} {s t : String}

/-! ### Characters -/

/-- What holds of all ASCII characters holds of each. -/
theorem forall_ascii {P : Char → Prop} (h : ∀ n < 128, P (Char.ofNat n)) (hc : c.toNat < 128) :
    P c :=
  Char.ofNat_toNat c ▸ h c.toNat hc

/-- Only letters have a letter case. -/
theorem toLower_of_not_isAlpha (h : c.isAlpha = false) : c.toLower = c := by
  have hupper : c.isUpper = false := (Bool.or_eq_false_iff.mp h).1
  unfold Char.toLower
  split
  · next hletter =>
    have hletter : c.isUpper = true := decide_eq_true hletter
    rw [hupper] at hletter
    cases hletter
  · rfl

theorem toUpper_of_not_isAlpha (h : c.isAlpha = false) : c.toUpper = c := by
  have hlower : c.isLower = false := (Bool.or_eq_false_iff.mp h).2
  unfold Char.toUpper
  split
  · next hletter =>
    have hletter : c.isLower = true :=
      Bool.and_eq_true_iff.mpr ⟨decide_eq_true hletter.1, decide_eq_true hletter.2⟩
    rw [hlower] at hletter
    cases hletter
  · rfl

/-- All letters are ASCII characters. -/
theorem toNat_lt_of_isAlpha (h : c.isAlpha = true) : c.toNat < 128 := by
  have hlast : c.val ≤ 'z'.val := by
    obtain hupper | hlower := Bool.or_eq_true_iff.mp h
    · exact UInt32.le_trans (of_decide_eq_true hupper).2 (by decide)
    · exact of_decide_eq_true (Bool.and_eq_true_iff.mp hlower).2
  exact Nat.lt_of_le_of_lt hlast (by decide)

/-- What holds of ASCII characters and of characters without letter case holds of all. -/
theorem forall_of_ascii {P : Char → Prop} (hascii : ∀ n < 128, P (Char.ofNat n))
    (hother : ∀ c : Char, c.isAlpha = false → c.toLower = c → c.toUpper = c → P c) (c : Char) :
    P c := by
  cases h : c.isAlpha with
  | true => exact forall_ascii hascii (toNat_lt_of_isAlpha h)
  | false => exact hother c h (toLower_of_not_isAlpha h) (toUpper_of_not_isAlpha h)

theorem isAlpha_toLower (c : Char) : c.toLower.isAlpha = c.isAlpha :=
  forall_of_ascii (P := fun c => c.toLower.isAlpha = c.isAlpha) (by decide)
    (fun _ _ hlower _ => by rw [hlower]) c

theorem isAlpha_toUpper (c : Char) : c.toUpper.isAlpha = c.isAlpha :=
  forall_of_ascii (P := fun c => c.toUpper.isAlpha = c.isAlpha) (by decide)
    (fun _ _ _ hupper => by rw [hupper]) c

@[simp] theorem toLower_toLower (c : Char) : c.toLower.toLower = c.toLower :=
  forall_of_ascii (P := fun c => c.toLower.toLower = c.toLower) (by decide)
    (fun _ _ hlower _ => by rw [hlower, hlower]) c

@[simp] theorem toUpper_toLower (c : Char) : c.toLower.toUpper = c.toUpper :=
  forall_of_ascii (P := fun c => c.toLower.toUpper = c.toUpper) (by decide)
    (fun _ _ hlower _ => by rw [hlower]) c

@[simp] theorem toLower_toUpper (c : Char) : c.toUpper.toLower = c.toLower :=
  forall_of_ascii (P := fun c => c.toUpper.toLower = c.toLower) (by decide)
    (fun _ _ _ hupper => by rw [hupper]) c

/-- Only a letter becomes another character in upper case, and it becomes a letter. -/
theorem toUpper_eq_iff (hd : d.isAlpha = false) : c.toUpper = d ↔ c = d := by
  constructor
  · intro h
    have hc : c.isAlpha = false := by rw [← isAlpha_toUpper, h, hd]
    rw [← h, toUpper_of_not_isAlpha hc]
  · rintro rfl
    exact toUpper_of_not_isAlpha hd

/-- Only a letter becomes another character in lower case, and it becomes a letter. -/
theorem toLower_eq_iff (hd : d.isAlpha = false) : c.toLower = d ↔ c = d := by
  constructor
  · intro h
    have hc : c.isAlpha = false := by rw [← isAlpha_toLower, h, hd]
    rw [← h, toLower_of_not_isAlpha hc]
  · rintro rfl
    exact toLower_of_not_isAlpha hd

/-! ### Texts -/

@[simp] theorem toList_lower (s : String) : (lower s).toList = s.toList.map Char.toLower :=
  String.toList_map

/-- Texts differ in case only where they are the same in lower case. -/
theorem sameIgnoringCase_iff_lower : sameIgnoringCase s t = true ↔ lower s = lower t := by
  rw [sameIgnoringCase_iff, ← String.toList_inj, toList_lower, toList_lower]

theorem upper_lower (s : String) : upper (lower s) = upper s := by
  apply String.toList_injective
  simp [upper]

@[simp] theorem map_toLower_map_toLower (cs : List Char) :
    (cs.map Char.toLower).map Char.toLower = cs.map Char.toLower := by
  rw [List.map_map]
  exact List.map_congr_left fun c _ => toLower_toLower c

theorem lower_lower (s : String) : lower (lower s) = lower s := by
  apply String.toList_injective
  rw [toList_lower, toList_lower, map_toLower_map_toLower]

end Text

end FilterQuery
