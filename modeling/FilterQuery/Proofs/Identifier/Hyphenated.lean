import FilterQuery.Proofs.Identifier.RoundTrip
import FilterQuery.Proofs.Steps
import FilterQuery.Proofs.Text.LetterCase
import Mathlib.Data.List.Induction

namespace FilterQuery

/-!
# The hyphenated form of identifiers

The hyphenated form is told by the bytes of a text: there are 36 of them, hyphens at four places
and hexadecimal digits, in either case, at all others.  Exactly the texts of this form are read,
and in lower case each of them is the text of the identifier that it is read as.

* `Uuid.IsHyphenated` — the form, by the bytes of a text;
* `Uuid.forall₂_fits_iff` — characters that fit the places between and in groups of digits;
* `Uuid.exists_readHyphenated_iff`, `Uuid.readHyphenated_eq_error_iff` — what is read, and why
  anything else is not;
* `Uuid.text_of_readHyphenated` — the text of what is read.
-/

/-- Whether a byte is the code of a hexadecimal digit, in either case. -/
def isHexCode (b : UInt8) : Bool :=
  (48 ≤ b && b ≤ 57) || (65 ≤ b && b ≤ 70) || (97 ≤ b && b ≤ 102)

namespace Uuid

/-- A text of 36 bytes in which hyphens stand at the offsets 8, 13, 18 and 23, and hexadecimal
    digits at all others. -/
def IsHyphenated (s : String) : Prop :=
  s.toUTF8.size = 36 ∧ ∀ i (h : i < s.toUTF8.size),
    if i ∈ [8, 13, 18, 23] then s.toUTF8[i] = 45 else isHexCode s.toUTF8[i] = true

instance (s : String) : Decidable (IsHyphenated s) := inferInstanceAs (Decidable (_ ∧ _))

/-! ### Places -/

/-- Whether a character may stand at a place: a hyphen where there has to be one, and a digit
    elsewhere. -/
def fits (hyphen : Bool) (c : Char) : Bool := if hyphen then c == '-' else (hexValue? c).isSome

/-- Whether a byte may stand at a place. -/
def fitsCode (hyphen : Bool) (b : UInt8) : Bool := if hyphen then b == 45 else isHexCode b

/-- The places of groups of the given widths, and of the hyphens between them. -/
def places : List Nat → List Bool
  | [] => []
  | [w] => List.replicate w false
  | w :: ws => List.replicate w false ++ true :: places ws

theorem places_cons (w w' : Nat) (ws : List Nat) :
    places (w :: w' :: ws) = List.replicate w false ++ true :: places (w' :: ws) := rfl

/-- A list beside copies of one element. -/
theorem forall₂_replicate_iff {α β : Type} {R : α → β → Prop} {n : Nat} {a : α} {bs : List β} :
    List.Forall₂ R (List.replicate n a) bs ↔ bs.length = n ∧ ∀ b ∈ bs, R a b := by
  induction bs generalizing n with
  | nil => cases n <;> simp [List.replicate_succ]
  | cons b bs ih =>
    cases n with
    | zero => simp
    | succ n => simp [List.replicate_succ, ih, and_left_comm]

/-- Characters fit the places of groups exactly where digits stand in the groups, with hyphens in
    between. -/
theorem forall₂_fits_iff {widths : List Nat} (hwidths : widths ≠ []) {cs : List Char} :
    List.Forall₂ (fits · ·) (places widths) cs ↔
      ∃ hs : List Char, hs.length = widths.sum ∧ (∀ c ∈ hs, (hexValue? c).isSome = true) ∧
        cs = hyphenate widths hs := by
  induction widths generalizing cs with
  | nil => exact absurd rfl hwidths
  | cons w ws ih =>
    cases ws with
    | nil =>
      rw [places, forall₂_replicate_iff]
      constructor
      · rintro ⟨hlength, hdigits⟩
        refine ⟨cs, by simp [hlength], hdigits, ?_⟩
        rw [hyphenate, List.take_of_length_le (Nat.le_of_eq hlength)]
      · rintro ⟨hs, hlength, hdigits, rfl⟩
        have hw : hs.length = w := by simpa using hlength
        rw [hyphenate, List.take_of_length_le (Nat.le_of_eq hw)]
        exact ⟨hw, hdigits⟩
    | cons w' ws =>
      have hothers := @ih (List.cons_ne_nil w' ws)
      have hwidth : (List.replicate w false).length = w := List.length_replicate
      rw [places_cons, List.sum_cons]
      constructor
      · intro h
        have hfirst := List.forall₂_take w h
        have hrest := List.forall₂_drop w h
        rw [List.take_left' hwidth, forall₂_replicate_iff] at hfirst
        rw [List.drop_left' hwidth, List.forall₂_cons_left_iff] at hrest
        -- behind the first group stands a hyphen, and the other groups behind it
        obtain ⟨c, rest, hc, hrest, hdrop⟩ := hrest
        obtain rfl : c = '-' := beq_iff_eq.mp hc
        obtain ⟨hs, hlength, hdigits, rfl⟩ := hothers.mp hrest
        refine ⟨cs.take w ++ hs, ?_, ?_, ?_⟩
        · rw [List.length_append, hfirst.1, hlength]
        · exact List.forall_mem_append.mpr ⟨hfirst.2, hdigits⟩
        · rw [hyphenate_cons, List.take_left' hfirst.1, List.drop_left' hfirst.1, ← hdrop,
            List.take_append_drop]
      · rintro ⟨hs, hlength, hdigits, rfl⟩
        have htake : (hs.take w).length = w := by
          rw [List.length_take]
          omega
        have hdrop : (hs.drop w).length = (w' :: ws).sum := by
          rw [List.length_drop]
          omega
        rw [hyphenate_cons]
        refine List.rel_append (forall₂_replicate_iff.mpr ⟨htake, ?_⟩) (.cons rfl (hothers.mpr ?_))
        · exact fun c hc => hdigits c (List.mem_of_mem_take hc)
        · exact ⟨_, hdrop, fun c hc => hdigits c (List.mem_of_mem_drop hc), rfl⟩

/-- Groups are read exactly where the characters fit their places. -/
theorem exists_readGroups_iff {widths : List Nat} (hwidths : widths ≠ []) {cs : List Char} :
    (∃ ds, readGroups widths cs = some ds) ↔ List.Forall₂ (fits · ·) (places widths) cs := by
  have hdigits (hs : List Char) :
      (∃ ds, List.Forall₂ (fun c d => hexValue? c = some d) hs ds) ↔
        ∀ c ∈ hs, (hexValue? c).isSome = true := by
    induction hs with
    | nil => simp
    | cons c hs ih =>
      rw [List.forall_mem_cons, ← ih, Option.isSome_iff_exists]
      simp only [List.forall₂_cons_left_iff]
      constructor
      · rintro ⟨-, d, ds, hd, hds, rfl⟩
        exact ⟨⟨d, hd⟩, ds, hds⟩
      · rintro ⟨⟨d, hd⟩, ds, hds⟩
        exact ⟨_, d, ds, hd, hds, rfl⟩
  simp only [readGroups_eq_some_iff hwidths, forall₂_fits_iff hwidths, ← hdigits]
  constructor
  · rintro ⟨ds, hs, hlength, hds, hcs⟩
    exact ⟨hs, hlength, ⟨ds, hds⟩, hcs⟩
  · rintro ⟨hs, hlength, ⟨ds, hds⟩, hcs⟩
    exact ⟨ds, hs, hlength, hds, hcs⟩

/-! ### Bytes -/

/-- The bytes of a text are those of its characters. -/
theorem toUTF8_eq (s : String) :
    s.toUTF8 = (s.toList.flatMap String.utf8EncodeChar).toByteArray := by
  have hbytes : (String.ofList s.toList).toByteArray = s.toList.utf8Encode :=
    String.toByteArray_ofList
  rwa [String.ofList_toList] at hbytes

theorem byteLength_eq_size (s : String) : byteLength s.toList = s.toUTF8.size := by
  rw [toUTF8_eq, List.size_toByteArray]
  induction s.toList with
  | nil => rfl
  | cons c cs ih =>
    rw [List.flatMap_cons, List.length_append, String.length_utf8EncodeChar, ← ih]
    rfl

/-- A hexadecimal digit is a character of ASCII. -/
theorem toNat_lt_of_hexValue? {c : Char} (h : (hexValue? c).isSome = true) : c.toNat < 128 := by
  have hbounds {low high : Char} (h : low ≤ c ∧ c ≤ high) : c.toNat ≤ high.toNat :=
    UInt32.le_iff_toNat_le.mp h.2
  rw [hexValue?] at h
  split at h
  · next hdigit =>
    simp only [Char.isDigit, Bool.and_eq_true, decide_eq_true_eq] at hdigit
    have := UInt32.le_iff_toNat_le.mp hdigit.2
    exact Nat.lt_of_le_of_lt this (by decide)
  · split at h
    · next hsmall => exact Nat.lt_of_le_of_lt (hbounds hsmall) (by decide)
    · split at h
      · next hcapital => exact Nat.lt_of_le_of_lt (hbounds hcapital) (by decide)
      · cases h

/-- A character of ASCII is one byte. -/
theorem utf8EncodeChar_of_lt {c : Char} (h : c.toNat < 128) :
    String.utf8EncodeChar c = [UInt8.ofNat c.toNat] :=
  if_pos (Nat.le_of_lt_succ h)

/-- Any other character begins with a byte that is no code of ASCII. -/
theorem utf8EncodeChar_of_ge {c : Char} (h : 128 ≤ c.toNat) :
    ∃ b bs, String.utf8EncodeChar c = b :: bs ∧ 128 ≤ b.toNat := by
  have hfirst : ¬c.val.toNat ≤ 127 := Nat.not_le.mpr h
  unfold String.utf8EncodeChar
  simp only [hfirst, if_false]
  split
  · exact ⟨_, _, rfl, by simp; omega⟩
  · split
    · exact ⟨_, _, rfl, by simp; omega⟩
    · exact ⟨_, _, rfl, by simp; omega⟩

theorem lt_of_fits {hyphen : Bool} {c : Char} (h : fits hyphen c = true) : c.toNat < 128 := by
  cases hyphen with
  | true =>
    obtain rfl : c = '-' := beq_iff_eq.mp h
    decide
  | false => exact toNat_lt_of_hexValue? h

theorem lt_of_fitsCode {hyphen : Bool} {b : UInt8} (h : fitsCode hyphen b = true) :
    b.toNat < 128 := by
  cases hyphen with
  | true =>
    obtain rfl : b = 45 := beq_iff_eq.mp h
    decide
  | false =>
    have hcode : isHexCode b = true := h
    simp only [isHexCode, Bool.or_eq_true, Bool.and_eq_true, decide_eq_true_eq,
      UInt8.le_iff_toNat_le, UInt8.reduceToNat] at hcode
    omega

/-- A character of ASCII fits a place exactly where its byte does. -/
theorem fitsCode_iff {c : Char} (h : c.toNat < 128) :
    ∀ hyphen, fitsCode hyphen (UInt8.ofNat c.toNat) = fits hyphen c :=
  Text.forall_ascii (P := fun c => ∀ hyphen, fitsCode hyphen (UInt8.ofNat c.toNat) = fits hyphen c)
    (by decide) h

/-- Bytes fit places exactly where the characters do. -/
theorem forall₂_fitsCode_iff {marks : List Bool} {cs : List Char} :
    List.Forall₂ (fitsCode · ·) marks (cs.flatMap String.utf8EncodeChar) ↔
      List.Forall₂ (fits · ·) marks cs := by
  induction cs generalizing marks with
  | nil => simp
  | cons c cs ih =>
    rw [List.flatMap_cons]
    by_cases hc : c.toNat < 128
    · rw [utf8EncodeChar_of_lt hc, List.singleton_append, List.forall₂_cons_right_iff,
        List.forall₂_cons_right_iff]
      simp only [fitsCode_iff hc, ih]
    · -- a character of several bytes fits no place, and neither does its first byte
      obtain ⟨b, bs, hbytes, hb⟩ := utf8EncodeChar_of_ge (Nat.not_lt.mp hc)
      rw [hbytes, List.cons_append, List.forall₂_cons_right_iff, List.forall₂_cons_right_iff]
      constructor
      · rintro ⟨hyphen, marks, hfits, -⟩
        have := lt_of_fitsCode hfits
        omega
      · rintro ⟨hyphen, marks, hfits, -⟩
        exact absurd (lt_of_fits hfits) hc

/-- A text has the hyphenated form exactly where its characters fit the places of the form. -/
theorem isHyphenated_iff {s : String} :
    IsHyphenated s ↔ List.Forall₂ (fits · ·) (places groups) s.toList := by
  have hlength : (places groups).length = 36 := by decide
  have hplaces : ∀ i (h : i < (places groups).length),
      (places groups).get ⟨i, h⟩ = decide (i ∈ [8, 13, 18, 23]) := by decide
  have hfits (hyphen : Bool) (b : UInt8) :
      fitsCode hyphen b = true ↔ if hyphen then b = 45 else isHexCode b = true := by
    cases hyphen <;> simp [fitsCode]
  rw [← forall₂_fitsCode_iff, List.forall₂_iff_get, IsHyphenated, toUTF8_eq]
  simp only [hplaces, hfits, hlength, List.size_toByteArray, List.getElem_toByteArray,
    decide_eq_true_eq, List.get_eq_getElem]
  constructor
  · rintro ⟨hsize, hall⟩
    exact ⟨hsize.symm, fun i _ hi => hall i hi⟩
  · rintro ⟨hsize, hall⟩
    exact ⟨hsize.symm, fun i hi => hall i (hsize ▸ hi) hi⟩

/-! ### Reading -/

theorem exists_hyphenated?_iff {s : String} :
    (∃ u, hyphenated? s.toList = some u) ↔ IsHyphenated s := by
  rw [isHyphenated_iff, ← exists_readGroups_iff (by decide)]
  simp [hyphenated?]

/-- Of what is read of all forms, the test of the length leaves one form, and all of it. -/
theorem readHyphenated_eq_ok_iff {s : String} {u : Uuid} :
    readHyphenated s = .ok u ↔ hyphenated? s.toList = some u := by
  rw [readHyphenated]
  by_cases hlength : byteLength s.toList = 36
  · rw [if_pos hlength, read_eq_of_byteLength hlength, readWrapped]
    cases hyphenated? s.toList <;> simp
  · -- a text of another length has other groups
    have hnone : hyphenated? s.toList ≠ some u := fun h =>
      hlength ((byteLength_eq_size s).trans (exists_hyphenated?_iff.mp ⟨u, h⟩).1)
    simp [hlength, hnone]

/-- Exactly the texts of the hyphenated form are read. -/
theorem exists_readHyphenated_iff {s : String} :
    (∃ u, readHyphenated s = .ok u) ↔ IsHyphenated s := by
  simp only [readHyphenated_eq_ok_iff, exists_hyphenated?_iff]

/-- Any other text is refused for its length, or for what stands in it. -/
theorem readHyphenated_eq_error_iff {s : String} {e : HyphenatedError} :
    readHyphenated s = .error e ↔
      ¬IsHyphenated s ∧ e = if s.toUTF8.size = 36 then .malformed else .wrongLength := by
  have hread : (∃ u, readHyphenated s = .ok u) ↔ IsHyphenated s := exists_readHyphenated_iff
  rw [← hread, readHyphenated, byteLength_eq_size]
  by_cases hsize : s.toUTF8.size = 36
  · rw [if_pos hsize, if_pos hsize]
    cases read s <;> simp [eq_comm]
  · rw [if_neg hsize, if_neg hsize]
    simp [eq_comm]

/-! ### The text of what is read -/

/-- A digit is written as the character it was read from, in lower case. -/
theorem hexChar_of_hexValue? {c : Char} {d : Nat} (h : hexValue? c = some d) :
    d < 16 ∧ hexChar d = c.toLower := by
  have hall : ∀ n < 128, ∀ d ∈ hexValue? (Char.ofNat n),
      d < 16 ∧ hexChar d = (Char.ofNat n).toLower := by decide
  have hc : c.toNat < 128 := toNat_lt_of_hexValue? (Option.isSome_of_eq_some h)
  exact Text.forall_ascii (P := fun c => ∀ d ∈ hexValue? c, d < 16 ∧ hexChar d = c.toLower) hall hc
    d h

/-- Digits that a number below the largest of their count comes from. -/
theorem hexDigits_ofHexDigits {ds : List Nat} (h : ∀ d ∈ ds, d < 16) :
    ofHexDigits ds < 16 ^ ds.length ∧ hexDigits ds.length (ofHexDigits ds) = ds := by
  -- by induction from the end, where the smallest digit stands
  induction ds using List.reverseRecOn with
  | nil => exact ⟨by decide, rfl⟩
  | append_singleton ds d ih =>
    rw [List.forall_mem_append, List.forall_mem_singleton] at h
    obtain ⟨hlt, hdigits⟩ := ih h.1
    have hd := h.2
    have hstep : ofHexDigits (ds ++ [d]) = 16 * ofHexDigits ds + d := by
      rw [ofHexDigits, List.foldl_append]
      rfl
    have hrest : (16 * ofHexDigits ds + d) / 16 = ofHexDigits ds := by omega
    have hlast : (16 * ofHexDigits ds + d) % 16 = d := by omega
    rw [hstep, List.length_append, List.length_singleton, hexDigits, hrest, hlast, hdigits,
      Nat.pow_succ]
    exact ⟨by omega, rfl⟩

theorem digits_ofDigits {ds : List Nat} (hlength : ds.length = 32) (h : ∀ d ∈ ds, d < 16) :
    (ofDigits ds).digits = ds := by
  obtain ⟨hlt, hdigits⟩ := hexDigits_ofHexDigits h
  rw [hlength] at hlt hdigits
  have hbits : 2 ^ 128 = 16 ^ 32 := by decide
  rw [digits, ofDigits, BitVec.toNat_ofNat, hbits, Nat.mod_eq_of_lt hlt, hdigits]

theorem map_hyphenate {f : Char → Char} (hf : f '-' = '-') (widths : List Nat) (cs : List Char) :
    (hyphenate widths cs).map f = hyphenate widths (cs.map f) := by
  induction widths generalizing cs with
  | nil => rfl
  | cons w ws ih =>
    cases ws with
    | nil => exact List.map_take
    | cons w' ws =>
      rw [hyphenate_cons, hyphenate_cons, List.map_append, List.map_cons, hf, ih, List.map_take,
        List.map_drop]

/-- **The text of what is read** is the text that it was read from, in lower case. -/
theorem text_of_readHyphenated {s : String} {u : Uuid} (h : readHyphenated s = .ok u) :
    u.text = Text.lower s := by
  rw [readHyphenated_eq_ok_iff, hyphenated?, Option.map_eq_some_iff] at h
  obtain ⟨ds, hgroups, rfl⟩ := h
  obtain ⟨hs, hlength, hdigits, hchars⟩ := (readGroups_eq_some_iff (by decide)).mp hgroups
  have hlength' : ds.length = 32 := hdigits.length_eq.symm.trans hlength
  -- each digit is written in lower case, in whatever case it was read
  have hlower : ds.map hexChar = hs.map Char.toLower := by
    clear hlength hchars hgroups hlength'
    induction hdigits with
    | nil => rfl
    | cons hd _ ih => rw [List.map_cons, List.map_cons, (hexChar_of_hexValue? hd).2, ih]
  have hbounds : ∀ d ∈ ds, d < 16 := by
    intro d hd
    obtain ⟨c, -, hc⟩ := exists_mem_of_forall₂ hdigits hd
    exact (hexChar_of_hexValue? hc).1
  apply String.toList_injective
  rw [text, String.toList_ofList, chars, digits_ofDigits hlength' hbounds, hlower, Text.lower,
    String.toList_map, hchars, map_hyphenate (by decide)]

/-- An identifier has a text of its own. -/
theorem text_injective {u v : Uuid} (h : u.text = v.text) : u = v := by
  have hread := readHyphenated_text u
  rw [h, readHyphenated_text] at hread
  exact (Except.ok.inj hread).symm

/-! ### Letter case -/

theorem hexValue?_toLower (c : Char) : hexValue? c.toLower = hexValue? c := by
  have hall : ∀ n < 128, hexValue? (Char.ofNat n).toLower = hexValue? (Char.ofNat n) := by decide
  exact Text.forall_of_ascii (P := fun c => hexValue? c.toLower = hexValue? c) hall
    (fun c _ hlower _ => by rw [hlower]) c

end Uuid

end FilterQuery
