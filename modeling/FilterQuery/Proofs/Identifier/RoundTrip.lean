import FilterQuery.Identifier.Reader
import Mathlib.Algebra.GroupWithZero.Nat
import Mathlib.Data.List.Forall2

namespace FilterQuery

/-!
# Identifiers and their texts

The canonical text of an identifier is read back as the identifier.

* `ofHexDigits_hexDigits` — hexadecimal digits stand for the number that they come from;
* `Uuid.readGroups_eq_some_iff` — groups of digits with hyphens in between are read, and nothing
  else;
* `Uuid.readHyphenated_text`, `Uuid.read_text` — the text of an identifier is read as that
  identifier.
-/

/-! ### Digits -/

/-- The character of a hexadecimal digit has the value of the digit. -/
theorem hexValue?_hexChar {d : Nat} (h : d < 16) : hexValue? (hexChar d) = some d := by
  have hall : ∀ d < 16, hexValue? (hexChar d) = some d := by decide
  exact hall d h

theorem lt_of_mem_hexDigits {width n d : Nat} (h : d ∈ hexDigits width n) : d < 16 := by
  induction width generalizing n with
  | zero => cases h
  | succ w ih =>
    rw [hexDigits, List.mem_append, List.mem_singleton] at h
    obtain h | rfl := h
    · exact ih h
    · exact Nat.mod_lt n (by decide)

@[simp] theorem length_hexDigits (width n : Nat) : (hexDigits width n).length = width := by
  induction width generalizing n with
  | zero => rfl
  | succ w ih => simp [hexDigits, ih]

/-- Hexadecimal digits stand for the number that they come from. -/
theorem ofHexDigits_hexDigits {width n : Nat} (h : n < 16 ^ width) :
    ofHexDigits (hexDigits width n) = n := by
  induction width generalizing n with
  | zero => simp at h; simp [h, hexDigits, ofHexDigits]
  | succ w ih =>
    have hrest : n / 16 < 16 ^ w := by rw [Nat.pow_succ] at h; omega
    have hstep : ofHexDigits (hexDigits w (n / 16)) = n / 16 := ih hrest
    unfold ofHexDigits at hstep
    rw [hexDigits, ofHexDigits, List.foldl_append, hstep]
    simp only [List.foldl_cons, List.foldl_nil]
    omega

namespace Uuid

/-- Digits are read exactly where each of them is the character of the number beside it. -/
theorem mapM_hexValue?_eq_some_iff {cs : List Char} {ds : List Nat} :
    cs.mapM hexValue? = some ds ↔ List.Forall₂ (fun c d => hexValue? c = some d) cs ds := by
  induction cs generalizing ds with
  | nil => cases ds <;> simp
  | cons c cs ih =>
    rw [List.mapM_cons, List.forall₂_cons_left_iff]
    simp only [← ih, Option.bind_eq_bind, Option.bind_eq_some_iff, Option.pure_def,
      Option.some.injEq, eq_comm (b := ds), exists_and_left]

theorem forall₂_hexChar {ds : List Nat} (h : ∀ d ∈ ds, d < 16) :
    List.Forall₂ (fun c d => hexValue? c = some d) (ds.map hexChar) ds := by
  rw [List.forall₂_map_left_iff, List.forall₂_same]
  exact fun d hd => hexValue?_hexChar (h d hd)

theorem hyphenate_cons (w w' : Nat) (ws : List Nat) (cs : List Char) :
    hyphenate (w :: w' :: ws) cs = cs.take w ++ '-' :: hyphenate (w' :: ws) (cs.drop w) := rfl

/-- A group in front of others is read up to the hyphen behind it. -/
theorem readGroups_cons_eq_some_iff {w w' : Nat} {ws ds : List Nat} {cs : List Char} :
    readGroups (w :: w' :: ws) cs = some ds ↔
      ∃ first rest others, (cs.take w).mapM hexValue? = some first ∧ cs.drop w = '-' :: rest ∧
        readGroups (w' :: ws) rest = some others ∧ ds = first ++ others := by
  rw [readGroups]
  · split
    · next first rest hfirst hdrop =>
      rw [hfirst, hdrop, Option.map_eq_some_iff]
      simp [eq_comm]
    · next hnone =>
      constructor
      · nofun
      · rintro ⟨first, rest, others, hfirst, hdrop, -, -⟩
        exact absurd hdrop (hnone first rest hfirst)
  · simp

/-- Groups are read exactly where digits stand in them with hyphens in between. -/
theorem readGroups_eq_some_iff {widths : List Nat} (hwidths : widths ≠ []) {cs : List Char}
    {ds : List Nat} :
    readGroups widths cs = some ds ↔
      ∃ hs : List Char, hs.length = widths.sum ∧
        List.Forall₂ (fun c d => hexValue? c = some d) hs ds ∧ cs = hyphenate widths hs := by
  induction widths generalizing cs ds with
  | nil => exact absurd rfl hwidths
  | cons w ws ih =>
    cases ws with
    | nil =>
      rw [readGroups]
      constructor
      · intro h
        split at h
        · next hlength =>
          refine ⟨cs, by simp [hlength], mapM_hexValue?_eq_some_iff.mp h, ?_⟩
          rw [hyphenate, List.take_of_length_le (Nat.le_of_eq hlength)]
        · cases h
      · rintro ⟨hs, hlength, hdigits, rfl⟩
        have hw : hs.length = w := by simpa using hlength
        rw [hyphenate, List.take_of_length_le (Nat.le_of_eq hw), if_pos hw]
        exact mapM_hexValue?_eq_some_iff.mpr hdigits
    | cons w' ws =>
      have hothers := @ih (List.cons_ne_nil w' ws)
      rw [readGroups_cons_eq_some_iff, List.sum_cons]
      constructor
      · rintro ⟨first, rest, others, hfirst, hdrop, hrest, rfl⟩
        obtain ⟨hs, hlength, hdigits, rfl⟩ := hothers.mp hrest
        -- a hyphen follows the first group, so the text is long enough for it
        have htake : (cs.take w).length = w := by
          have hdropped := congrArg List.length hdrop
          rw [List.length_drop, List.length_cons] at hdropped
          rw [List.length_take]
          omega
        refine ⟨cs.take w ++ hs, ?_, ?_, ?_⟩
        · rw [List.length_append, htake, hlength]
        · exact List.rel_append (mapM_hexValue?_eq_some_iff.mp hfirst) hdigits
        · rw [hyphenate_cons, List.take_left' htake, List.drop_left' htake, ← hdrop,
            List.take_append_drop]
      · rintro ⟨hs, hlength, hdigits, rfl⟩
        have htake : (hs.take w).length = w := by
          rw [List.length_take]
          omega
        rw [hyphenate_cons, List.take_left' htake, List.drop_left' htake]
        refine ⟨ds.take w, _, ds.drop w, ?_, rfl, ?_, (List.take_append_drop w ds).symm⟩
        · exact mapM_hexValue?_eq_some_iff.mpr (List.forall₂_take w hdigits)
        · refine hothers.mpr ⟨hs.drop w, ?_, List.forall₂_drop w hdigits, rfl⟩
          rw [List.length_drop]
          omega

/-- The text of digits in groups has the length of the digits and of the hyphens. -/
theorem length_hyphenate {widths : List Nat} {cs : List Char} (hwidths : widths ≠ [])
    (hlength : cs.length = widths.sum) :
    (hyphenate widths cs).length + 1 = cs.length + widths.length := by
  induction widths generalizing cs with
  | nil => exact absurd rfl hwidths
  | cons w ws ih =>
    cases ws with
    | nil => simp at hlength; simp [hyphenate, hlength]
    | cons w' ws =>
      rw [List.sum_cons] at hlength
      have hdrop : (cs.drop w).length = (w' :: ws).sum := by
        rw [List.length_drop]
        omega
      have hrest := ih (List.cons_ne_nil w' ws) hdrop
      simp only [hyphenate_cons, List.length_append, List.length_take, List.length_cons,
        List.length_drop] at hrest ⊢
      omega

/-- The characters of a text in groups are hyphens and those of the digits. -/
theorem mem_hyphenate {widths : List Nat} {cs : List Char} {c : Char}
    (h : c ∈ hyphenate widths cs) : c = '-' ∨ c ∈ cs := by
  induction widths generalizing cs with
  | nil => cases h
  | cons w ws ih =>
    cases ws with
    | nil => exact .inr (List.mem_of_mem_take h)
    | cons w' ws =>
      rw [hyphenate_cons, List.mem_append, List.mem_cons] at h
      obtain h | rfl | h := h
      · exact .inr (List.mem_of_mem_take h)
      · exact .inl rfl
      · exact (ih h).imp_right List.mem_of_mem_drop

/-- A character of the text of an identifier is a hyphen or a small hexadecimal digit. -/
theorem mem_chars {u : Uuid} {c : Char} (h : c ∈ u.chars) :
    c ∈ "-0123456789abcdef".toList := by
  obtain rfl | h := mem_hyphenate h
  · decide
  · obtain ⟨d, hd, rfl⟩ := List.mem_map.mp h
    have hall : ∀ d < 16, hexChar d ∈ "-0123456789abcdef".toList := by decide
    exact hall d (lt_of_mem_hexDigits hd)

theorem length_chars (u : Uuid) : u.chars.length = 36 := by
  have hdigits : (u.digits.map hexChar).length = groups.sum := by simp [digits, groups]
  have hlength := length_hyphenate (show groups ≠ [] by decide) hdigits
  rw [hdigits] at hlength
  exact Nat.succ.inj hlength

/-- A text of characters of one byte has as many bytes as characters. -/
theorem byteLength_eq_length {cs : List Char} (h : ∀ c ∈ cs, c.utf8Size = 1) :
    byteLength cs = cs.length := by
  induction cs with
  | nil => rfl
  | cons c cs ih =>
    rw [List.forall_mem_cons] at h
    rw [byteLength, List.foldr_cons, ← byteLength, ih h.2, h.1, List.length_cons]
    omega

theorem byteLength_chars (u : Uuid) : byteLength u.chars = 36 := by
  have hall : "-0123456789abcdef".toList.all (·.utf8Size == 1) = true := by decide
  have hsize : ∀ c ∈ u.chars, c.utf8Size = 1 := fun c hc =>
    beq_iff_eq.mp (List.all_eq_true.mp hall c (mem_chars hc))
  rw [byteLength_eq_length hsize, length_chars]

theorem hyphenated?_chars (u : Uuid) : hyphenated? u.chars = some u := by
  have hgroups : readGroups groups u.chars = some u.digits :=
    (readGroups_eq_some_iff (by decide)).mpr ⟨_, by simp [digits, groups],
      forall₂_hexChar fun d hd => lt_of_mem_hexDigits hd, rfl⟩
  have hnumber : ofHexDigits u.digits = u.bits.toNat := ofHexDigits_hexDigits u.bits.isLt
  rw [hyphenated?, hgroups, Option.map_some, ofDigits, hnumber, BitVec.ofNat_toNat,
    BitVec.setWidth_eq]

/-- Of the forms only the hyphenated one has 36 bytes. -/
theorem read_eq_of_byteLength {s : String} (h : byteLength s.toList = 36) :
    read s = readWrapped s.toList := by
  rw [read, readChars]
  simp only [h]
  rfl

/-- The text of an identifier is read as that identifier, where all forms are. -/
theorem read_text (u : Uuid) : read u.text = .ok u := by
  have hchars : u.text.toList = u.chars := String.toList_ofList
  rw [read_eq_of_byteLength (hchars ▸ u.byteLength_chars), hchars, readWrapped, hyphenated?_chars]

theorem readText_text (u : Uuid) : readText u.text = .ok u := by
  rw [readText, read_text]
  rfl

/-- **Identifiers are read back.** The text of an identifier is read as that identifier, where
    only the hyphenated form is. -/
theorem readHyphenated_text (u : Uuid) : readHyphenated u.text = .ok u := by
  have hchars : u.text.toList = u.chars := String.toList_ofList
  rw [readHyphenated, hchars, if_pos u.byteLength_chars, read_text]

end Uuid

end FilterQuery
