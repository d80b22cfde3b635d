import FilterQuery.Calendar.Reader
import FilterQuery.Proofs.Number.Decimal
import FilterQuery.Proofs.Steps
import FilterQuery.Text.Digit
import Mathlib.Data.List.TakeWhile

namespace FilterQuery

/-!
# Texts that are read as timestamps

A layout takes a text apart, one piece for each of its items.  Most pieces are digits, signs
and white space; a piece that is a letter has such a piece before it and behind it.

* `LayoutItem.Takes` — the pieces that an item may take off a text;
* `Layout.exists_pieces` — a text that is scanned is made up of such pieces;
* `Timestamp.isChain_of_read` — a text that is read as a timestamp neither begins with a letter
  nor has two letters side by side;
* `Timestamp.isDigit_of_read` — it has no decimal digits but those of ASCII.
-/

/-! ### Characters -/

/-- A character of a timestamp that is no letter: a digit, white space or a sign. -/
def isClockMark (c : Char) : Bool :=
  c.isDigit || Text.isBlank c || ['+', '-', '\u2212', ':', '.'].contains c

/-- A character of a timestamp. -/
def isClockChar (c : Char) : Bool := isClockMark c || ['T', 't', 'Z', 'z'].contains c

theorem isClockMark_of_isDigit {c : Char} (h : c.isDigit = true) : isClockMark c = true := by
  simp [isClockMark, h]

theorem isClockMark_of_isBlank {c : Char} (h : Text.isBlank c = true) : isClockMark c = true := by
  simp [isClockMark, h]

/-- The code points of white space. -/
def Text.blanks : List Nat := [
  0x9, 0xA, 0xB, 0xC, 0xD, 0x20, 0x85, 0xA0, 0x1680, 0x2000, 0x2001, 0x2002, 0x2003, 0x2004, 0x2005,
  0x2006, 0x2007, 0x2008, 0x2009, 0x200A, 0x2028, 0x2029, 0x202F, 0x205F, 0x3000]

theorem Text.toNat_mem_blanks {c : Char} (h : isBlank c = true) : c.toNat ∈ blanks := by
  simp only [isBlank, Bool.or_eq_true, Bool.and_eq_true, decide_eq_true_eq, beq_iff_eq] at h
  simp only [blanks, List.mem_cons, List.not_mem_nil]
  omega

theorem Text.isAlpha_of_isBlank {c : Char} (h : isBlank c = true) : c.isAlpha = false := by
  have hall : ∀ n ∈ blanks, (Char.ofNat n).isAlpha = false := by decide
  have hc := hall c.toNat (toNat_mem_blanks h)
  rwa [Char.ofNat_toNat] at hc

theorem Text.isDecimalDigit_of_isBlank {c : Char} (h : isBlank c = true) :
    isDecimalDigit c = false := by
  have hall : ∀ n ∈ blanks, (zeros.any fun z => z ≤ n && n < z + 10) = false := by decide
  exact hall c.toNat (toNat_mem_blanks h)

theorem Text.isDecimalDigit_of_isAlpha {c : Char} (h : c.isAlpha = true) :
    isDecimalDigit c = false := by
  have hbounds : 65 ≤ c.toNat ∧ c.toNat ≤ 122 := by
    change (decide (c.val ≥ 65 ∧ c.val ≤ 90) || (c.val ≥ 97 && c.val ≤ 122)) = true at h
    simp only [Bool.or_eq_true, Bool.and_eq_true, decide_eq_true_eq, ge_iff_le,
      UInt32.le_iff_toNat_le] at h
    change (65 ≤ c.toNat ∧ c.toNat ≤ 90) ∨ (97 ≤ c.toNat ∧ c.toNat ≤ 122) at h
    omega
  have hall : ∀ z ∈ zeros, z + 10 ≤ 65 ∨ 122 < z := by decide
  rw [isDecimalDigit, List.any_eq_false]
  intro z hz
  have hz := hall z hz
  simp only [Bool.and_eq_true, decide_eq_true_eq]
  omega

/-- No mark is a letter. -/
theorem isAlpha_of_isClockMark {c : Char} (h : isClockMark c = true) : c.isAlpha = false := by
  have hsigns : ['+', '-', '\u2212', ':', '.'].all (fun c => !c.isAlpha) = true := by decide
  simp only [isClockMark, Bool.or_eq_true, List.contains_iff_mem] at h
  obtain (h | h) | h := h
  · exact Text.isAlpha_of_isDigit h
  · exact Text.isAlpha_of_isBlank h
  · simpa using List.all_eq_true.mp hsigns c h

/-- A decimal digit of any script that stands in a timestamp is one of ASCII. -/
theorem isDigit_of_isClockChar {c : Char} (h : isClockChar c = true)
    (hdigit : Text.isDecimalDigit c = true) : c.isDigit = true := by
  have hothers : (['+', '-', '\u2212', ':', '.'] ++ ['T', 't', 'Z', 'z']).all
      (fun c => !Text.isDecimalDigit c) = true := by decide
  have hother {d : Char} (hd : d ∈ ['+', '-', '\u2212', ':', '.'] ++ ['T', 't', 'Z', 'z']) :
      Text.isDecimalDigit d = false := by
    simpa only [Bool.not_eq_true'] using List.all_eq_true.mp hothers d hd
  simp only [isClockChar, isClockMark, Bool.or_eq_true, List.contains_iff_mem] at h
  obtain ((h | h) | h) | h := h
  · exact h
  · rw [Text.isDecimalDigit_of_isBlank h] at hdigit
    cases hdigit
  · rw [hother (List.mem_append_left _ h)] at hdigit
    cases hdigit
  · rw [hother (List.mem_append_right _ h)] at hdigit
    cases hdigit

/-! ### Pieces -/

/-- The digits that are counted stand in front of the rest. -/
theorem spanDigits_eq (max : Nat) (cs : List Char) :
    ∃ piece, cs = piece ++ (spanDigits max cs).2 ∧ (∀ c ∈ piece, c.isDigit = true) ∧
      piece.length = (spanDigits max cs).1.length := by
  induction cs generalizing max with
  | nil => cases max <;> exact ⟨[], rfl, by simp, rfl⟩
  | cons c cs ih =>
    cases max with
    | zero => exact ⟨[], rfl, by simp, rfl⟩
    | succ max =>
      by_cases hc : c.isDigit = true
      · have hdigit : digit? c = some (c.toNat - '0'.toNat) := if_pos hc
        obtain ⟨piece, hcs, hpiece, hlength⟩ := ih max
        rw [spanDigits, hdigit]
        exact ⟨c :: piece, congrArg (c :: ·) hcs, List.forall_mem_cons.mpr ⟨hc, hpiece⟩,
          congrArg (· + 1) hlength⟩
      · have hdigit : digit? c = none := if_neg hc
        rw [spanDigits, hdigit]
        exact ⟨[], rfl, by simp, rfl⟩

/-- A text has a piece in front of the rest: some marks, at least as many as are asked for. -/
def HasPiece (min : Nat) (cs rest : List Char) : Prop :=
  ∃ piece, cs = piece ++ rest ∧ min ≤ piece.length ∧ ∀ c ∈ piece, isClockMark c = true

theorem HasPiece.cons {min : Nat} {cs rest : List Char} {c : Char} (hc : isClockMark c = true)
    (h : HasPiece min cs rest) : HasPiece (min + 1) (c :: cs) rest := by
  obtain ⟨piece, rfl, hlength, hpiece⟩ := h
  exact ⟨c :: piece, rfl, Nat.succ_le_succ hlength, List.forall_mem_cons.mpr ⟨hc, hpiece⟩⟩

theorem HasPiece.mono {min min' : Nat} {cs rest : List Char} (h : HasPiece min cs rest)
    (hmin : min' ≤ min) : HasPiece min' cs rest := by
  obtain ⟨piece, hcs, hlength, hpiece⟩ := h
  exact ⟨piece, hcs, hmin.trans hlength, hpiece⟩

theorem HasPiece.append {min min' : Nat} {cs mid rest : List Char} (h : HasPiece min cs mid)
    (h' : HasPiece min' mid rest) : HasPiece (min + min') cs rest := by
  obtain ⟨piece, rfl, hlength, hpiece⟩ := h
  obtain ⟨piece', rfl, hlength', hpiece'⟩ := h'
  refine ⟨piece ++ piece', (List.append_assoc piece piece' rest).symm, ?_,
    List.forall_mem_append.mpr ⟨hpiece, hpiece'⟩⟩
  rw [List.length_append]
  omega

/-- White space in front is a piece. -/
theorem hasPiece_trimStart (cs : List Char) : HasPiece 0 cs (Text.trimStart cs) :=
  ⟨cs.takeWhile Text.isBlank, List.takeWhile_append_dropWhile.symm, Nat.zero_le _,
    fun _ hc => isClockMark_of_isBlank (List.mem_takeWhile_imp hc)⟩

/-- A number that is scanned is made up of digits, at least as many as are asked for. -/
theorem hasPiece_of_scanNumber {min max n : Nat} {cs rest : List Char}
    (h : scanNumber min max cs = .ok (n, rest)) : HasPiece min cs rest := by
  obtain ⟨piece, hcs, hpiece, hlength⟩ := spanDigits_eq max cs
  unfold scanNumber at h
  simp only at h
  split at h
  · next hmin =>
    obtain ⟨-, hrest⟩ := Prod.mk.inj (Except.ok.inj h)
    rw [hrest] at hcs
    exact ⟨piece, hcs, hlength ▸ hmin, fun c hc => isClockMark_of_isDigit (hpiece c hc)⟩
  · split at h <;> cases h

/-- A year that is scanned is made up of digits, which may have a sign in front. -/
theorem hasPiece_of_scanYear {n : Int} {cs rest : List Char} (h : scanYear cs = .ok (n, rest)) :
    HasPiece 1 cs rest := by
  have hnumber {x : Except ScanError (Nat × List Char)} {f : Nat × List Char → Int × List Char}
      (h : x.map f = .ok (n, rest)) (hf : ∀ y, (f y).2 = y.2) : ∃ m, x = .ok (m, rest) := by
    cases x with
    | error e => cases h
    | ok y =>
      have hrest := congrArg Prod.snd (Except.ok.inj h)
      exact ⟨y.1, congrArg Except.ok (Prod.ext rfl ((hf y).symm.trans hrest))⟩
  rw [scanYear.eq_def] at h
  split at h
  · obtain ⟨m, hm⟩ := hnumber h fun _ => rfl
    exact ((hasPiece_of_scanNumber hm).cons (by decide)).mono (by decide)
  · obtain ⟨m, hm⟩ := hnumber h fun _ => rfl
    exact ((hasPiece_of_scanNumber hm).cons (by decide)).mono (by decide)
  · obtain ⟨m, hm⟩ := hnumber h fun _ => rfl
    exact hasPiece_of_scanNumber hm

/-- An offset that is scanned is a single letter, or has none. -/
theorem hasPiece_of_scanOffset {n : Int} {cs rest : List Char}
    (h : scanOffset cs = .ok (n, rest)) :
    cs = 'Z' :: rest ∨ cs = 'z' :: rest ∨ HasPiece 1 cs rest := by
  cases cs with
  | nil => cases h
  | cons c cs =>
    rw [scanOffset] at h
    split at h
    · next hletter =>
      obtain ⟨-, rfl⟩ := Prod.mk.inj (Except.ok.inj h)
      obtain rfl | rfl := hletter
      · exact .inl rfl
      · exact .inr (.inl rfl)
    · -- behind a sign stand two numbers, with a colon between them
      extract_lets behind at h
      have hbehind : ∀ east, behind east = .ok (n, rest) → HasPiece 0 cs rest := by
        intro east h
        obtain ⟨⟨hours, mid⟩, hhours, h⟩ := bind_eq_ok_iff.mp h
        have hpiece := hasPiece_of_scanNumber hhours
        simp only at h
        split at h
        · next mid =>
          obtain ⟨⟨minutes, rest'⟩, hminutes, h⟩ := bind_eq_ok_iff.mp h
          have hpiece' := (hasPiece_of_scanNumber hminutes).cons (c := ':') (by decide)
          simp only at h
          split at h
          · obtain ⟨-, rfl⟩ := Prod.mk.inj (Except.ok.inj h)
            exact (hpiece.append hpiece').mono (Nat.zero_le _)
          · cases h
        · cases h
        · cases h
      split at h
      · next hplus =>
        exact .inr (.inr ((hbehind 1 h).cons (by rw [hplus]; decide)))
      · split at h
        · next hminus =>
          have hc : isClockMark c = true := by obtain rfl | rfl := hminus <;> decide
          exact .inr (.inr ((hbehind (-1) h).cons hc))
        · cases h

/-! ### Items -/

namespace LayoutItem

/-- The pieces that an item may take off the front of a text. -/
def Takes : LayoutItem → List Char → Prop
  | .number _, piece => 1 ≤ piece.length ∧ ∀ c ∈ piece, isClockMark c = true
  | .fixed _ width, piece => width ≤ piece.length ∧ ∀ c ∈ piece, isClockMark c = true
  | .oneOf choice, piece => ∃ c ∈ choice, piece = [c]
  | .blank, piece | .fraction, piece => ∀ c ∈ piece, isClockMark c = true
  | .offset, piece => piece = ['Z'] ∨ piece = ['z'] ∨ ∀ c ∈ piece, isClockMark c = true

/-- A number that is scanned and set leaves the text behind the number. -/
theorem exists_scanned {α : Type} {scanned : Except ScanError (α × List Char)}
    (set : α → Except ScanError Clock) {clock' : Clock} {rest : List Char}
    (h : (do let (n, rest) ← scanned; return (← set n, rest)) = Except.ok (clock', rest)) :
    ∃ n, scanned = .ok (n, rest) := by
  obtain ⟨⟨n, rest'⟩, hscan, h⟩ := bind_eq_ok_iff.mp h
  obtain ⟨next, -, h⟩ := bind_eq_ok_iff.mp h
  obtain ⟨-, rfl⟩ := Prod.mk.inj (Except.ok.inj h)
  exact ⟨n, hscan⟩

/-- What an item scans is one of its pieces. -/
theorem exists_takes {item : LayoutItem} {clock clock' : Clock} {cs rest : List Char}
    (h : item.scan clock cs = .ok (clock', rest)) :
    ∃ piece, cs = piece ++ rest ∧ item.Takes piece := by
  rw [scan.eq_def] at h
  split at h
  · obtain ⟨n, hscan⟩ := exists_scanned (clock.set .year) h
    exact (hasPiece_trimStart cs).append (hasPiece_of_scanYear hscan)
  · obtain ⟨n, hscan⟩ := exists_scanned (fun n : Nat => clock.set _ n) h
    exact (hasPiece_trimStart cs).append (hasPiece_of_scanNumber hscan)
  · obtain ⟨n, hscan⟩ := exists_scanned (fun n : Nat => clock.set _ n) h
    exact hasPiece_of_scanNumber hscan
  · split at h
    · cases h
    · next c cs' =>
      split at h
      · next hc =>
        obtain ⟨-, rfl⟩ := Prod.mk.inj (Except.ok.inj h)
        exact ⟨[c], rfl, c, by simpa using hc, rfl⟩
      · cases h
  · obtain ⟨-, rfl⟩ := Prod.mk.inj (Except.ok.inj h)
    obtain ⟨piece, hcs, -, hpiece⟩ := hasPiece_trimStart cs
    exact ⟨piece, hcs, hpiece⟩
  · split at h
    · next cs' =>
      obtain ⟨piece, hcs, hpiece, -⟩ := spanDigits_eq cs'.length cs'
      simp only at h
      split at h
      · split at h <;> cases h
      · obtain ⟨-, rfl⟩ := Prod.mk.inj (Except.ok.inj h)
        refine ⟨'.' :: piece, congrArg ('.' :: ·) hcs, ?_⟩
        exact List.forall_mem_cons.mpr
          ⟨by decide, fun c hc => isClockMark_of_isDigit (hpiece c hc)⟩
    · obtain ⟨-, rfl⟩ := Prod.mk.inj (Except.ok.inj h)
      exact ⟨[], rfl, fun c hc => absurd hc List.not_mem_nil⟩
  · obtain ⟨⟨n, rest'⟩, hscan, h⟩ := bind_eq_ok_iff.mp h
    obtain ⟨-, rfl⟩ := Prod.mk.inj (Except.ok.inj h)
    obtain rfl | rfl | ⟨piece, hcs, -, hpiece⟩ := hasPiece_of_scanOffset hscan
    · exact ⟨['Z'], rfl, .inl rfl⟩
    · exact ⟨['z'], rfl, .inr (.inl rfl)⟩
    · exact ⟨piece, hcs, .inr (.inr hpiece)⟩

end LayoutItem

namespace Layout

/-- A text that is scanned is made up of the pieces of the items. -/
theorem exists_pieces {layout : Layout} {clock clock' : Clock} {cs : List Char}
    (h : layout.scanFrom clock cs = .ok clock') :
    ∃ pieces, List.Forall₂ LayoutItem.Takes layout pieces ∧ cs = pieces.flatten := by
  induction layout generalizing clock cs with
  | nil =>
    cases cs with
    | nil => exact ⟨[], .nil, rfl⟩
    | cons c cs => cases h
  | cons item layout ih =>
    rw [scanFrom] at h
    obtain ⟨⟨next, rest⟩, hscan, hrest⟩ := bind_eq_ok_iff.mp h
    obtain ⟨piece, rfl, hpiece⟩ := LayoutItem.exists_takes hscan
    obtain ⟨pieces, hpieces, rfl⟩ := ih hrest
    exact ⟨piece :: pieces, .cons hpiece hpieces, rfl⟩

/-! ### Letters -/

/-- Whether the items keep letters apart, where `behind` says that the character before them
    may be a letter. -/
def keepsApart (behind : Bool) : Layout → Bool
  | [] => true
  | .number _ :: items => keepsApart false items
  | .fixed _ width :: items => keepsApart (behind && width == 0) items
  | .oneOf choice :: items =>
    if choice.all fun c => !c.isAlpha then keepsApart false items
    else !behind && keepsApart true items
  | .blank :: items => keepsApart behind items
  | .fraction :: items => keepsApart behind items
  | .offset :: items => !behind && keepsApart true items

end Layout

/-- Two characters that are not both letters. -/
def Apart (a b : Char) : Prop := a.isAlpha = false ∨ b.isAlpha = false

/-- Marks keep the letters behind them apart from those before. -/
theorem isChain_append {piece rest : List Char} (hpiece : ∀ c ∈ piece, isClockMark c = true)
    {a : Char} (h : ∀ b, (piece = [] ∧ b = a) ∨ b.isAlpha = false → (b :: rest).IsChain Apart) :
    (a :: (piece ++ rest)).IsChain Apart := by
  induction piece generalizing a with
  | nil => exact h a (.inl ⟨rfl, rfl⟩)
  | cons c piece ih =>
    rw [List.forall_mem_cons] at hpiece
    have hc : c.isAlpha = false := isAlpha_of_isClockMark hpiece.1
    rw [List.cons_append, List.isChain_cons_cons]
    refine ⟨.inr hc, ih hpiece.2 fun b hb => h b (.inr ?_)⟩
    obtain ⟨-, rfl⟩ | hb := hb
    · exact hc
    · exact hb

/-- The characters that an item asks for. -/
def LayoutItem.choice : LayoutItem → List Char
  | .oneOf choice => choice
  | _ => []

namespace Layout

/-- Where the items keep letters apart, no two letters stand side by side in their pieces, nor
    at their front behind a letter that may stand there. -/
theorem isChain_of_takes {layout : Layout} {pieces : List (List Char)}
    (hpieces : List.Forall₂ LayoutItem.Takes layout pieces) {behind : Bool}
    (hlayout : layout.keepsApart behind = true) {a : Char} (ha : a.isAlpha = true → behind = true) :
    (a :: pieces.flatten).IsChain Apart := by
  -- by induction on the items; the flag goes along with the last character before them
  induction hpieces generalizing behind a with
  | nil => exact .singleton a
  | @cons item piece layout pieces hpiece _ ih =>
    rw [List.flatten_cons]
    have hmarks {flag : Bool} (hflag : keepsApart flag layout = true)
        (hpiece : ∀ c ∈ piece, isClockMark c = true)
        (hempty : piece = [] → a.isAlpha = true → flag = true) :
        (a :: (piece ++ pieces.flatten)).IsChain Apart := by
      refine isChain_append hpiece fun b hb => ih hflag fun hletter => ?_
      obtain ⟨hnil, rfl⟩ | hb := hb
      · exact hempty hnil hletter
      · simp [hb] at hletter
    have hsingle {c : Char} {flag : Bool} (hflag : keepsApart flag layout = true)
        (hpiece : piece = [c]) (hc : c.isAlpha = true → flag = true) (hapart : Apart a c) :
        (a :: (piece ++ pieces.flatten)).IsChain Apart := by
      rw [hpiece, List.singleton_append, List.isChain_cons_cons]
      exact ⟨hapart, ih hflag hc⟩
    have hletter {c : Char} (hflag : (!behind && keepsApart true layout) = true)
        (hpiece : piece = [c]) : (a :: (piece ++ pieces.flatten)).IsChain Apart := by
      rw [Bool.and_eq_true, Bool.not_eq_true'] at hflag
      refine hsingle hflag.2 hpiece (fun _ => rfl) (.inl ?_)
      simpa [hflag.1] using ha
    cases item with
    | number part =>
      exact hmarks hlayout hpiece.2 fun hnil => by simp [hnil, LayoutItem.Takes] at hpiece
    | fixed part width =>
      refine hmarks hlayout hpiece.2 fun hnil hletter => ?_
      have hwidth : width = 0 := by simpa [hnil, LayoutItem.Takes] using hpiece
      simp [ha hletter, hwidth]
    | oneOf choice =>
      obtain ⟨c, hc, hpiece⟩ := hpiece
      rw [keepsApart] at hlayout
      split at hlayout
      · next hall =>
        have hc' : c.isAlpha = false := by simpa using List.all_eq_true.mp hall c hc
        exact hsingle hlayout hpiece (by simp [hc']) (.inr hc')
      · exact hletter hlayout hpiece
    | blank | fraction => exact hmarks hlayout hpiece fun _ => ha
    | offset =>
      obtain hpiece | hpiece | hpiece := hpiece
      · exact hletter hlayout hpiece
      · exact hletter hlayout hpiece
      · rw [keepsApart, Bool.and_eq_true] at hlayout
        exact hmarks hlayout.2 hpiece fun _ _ => rfl

/-- A text that is made up of pieces has characters of timestamps, where the items ask for no
    others. -/
theorem isClockChar_of_takes {layout : Layout} {pieces : List (List Char)}
    (hpieces : List.Forall₂ LayoutItem.Takes layout pieces)
    (hlayout : ∀ item ∈ layout, ∀ c ∈ item.choice, isClockChar c = true) :
    ∀ c ∈ pieces.flatten, isClockChar c = true := by
  have hmark {c : Char} (h : isClockMark c = true) : isClockChar c = true := by
    simp [isClockChar, h]
  induction hpieces with
  | nil => exact fun c hc => absurd hc List.not_mem_nil
  | @cons item piece layout pieces hpiece _ ih =>
    rw [List.forall_mem_cons] at hlayout
    rw [List.flatten_cons, List.forall_mem_append]
    refine ⟨fun c hc => ?_, ih hlayout.2⟩
    cases item with
    | number part | fixed part width => exact hmark (hpiece.2 c hc)
    | blank | fraction => exact hmark (hpiece c hc)
    | oneOf choice =>
      obtain ⟨d, hd, rfl⟩ := hpiece
      obtain rfl := List.mem_singleton.mp hc
      exact hlayout.1 c hd
    | offset =>
      obtain rfl | rfl | hpiece := hpiece
      · obtain rfl := List.mem_singleton.mp hc
        decide
      · obtain rfl := List.mem_singleton.mp hc
        decide
      · exact hmark (hpiece c hc)

end Layout

/-! ### Timestamps -/

namespace Timestamp

/-- A text that is read as a timestamp follows one of three layouts. -/
theorem exists_pieces_of_read {cs : List Char} {t : Timestamp}
    (h : read (String.ofList cs) = .ok t) :
    ∃ layout ∈ [Layout.stored, Layout.rfc3339, Layout.day], ∃ pieces,
      List.Forall₂ LayoutItem.Takes layout pieces ∧ cs = pieces.flatten := by
  have hlayout {layout : Layout} {t : Timestamp} (h : layout.read cs = .ok t) :
      ∃ pieces, List.Forall₂ LayoutItem.Takes layout pieces ∧ cs = pieces.flatten := by
    obtain ⟨clock, hscan, -⟩ := bind_eq_ok_iff.mp h
    exact Layout.exists_pieces hscan
  rw [read, mapError_eq_ok_iff, String.toList_ofList, readChars] at h
  split at h
  · next hread => exact ⟨_, by simp, hlayout hread⟩
  · split at h
    · next hread => exact ⟨_, by simp, hlayout hread⟩
    · exact ⟨_, by simp, hlayout h⟩

/-- A text that is read as a timestamp does not begin with a letter, and no two letters stand
    side by side in it: even behind a letter it keeps letters apart. -/
theorem isChain_of_read {cs : List Char} {t : Timestamp} (h : read (String.ofList cs) = .ok t)
    (a : Char) : (a :: cs).IsChain Apart := by
  obtain ⟨layout, hmem, pieces, hpieces, rfl⟩ := exists_pieces_of_read h
  have hall : ∀ layout ∈ [Layout.stored, Layout.rfc3339, Layout.day],
      layout.keepsApart true = true := by decide
  exact Layout.isChain_of_takes hpieces (hall layout hmem) fun _ => rfl

/-- A text that is read as a timestamp has characters of timestamps only. -/
theorem isClockChar_of_read {cs : List Char} {t : Timestamp}
    (h : read (String.ofList cs) = .ok t) : ∀ c ∈ cs, isClockChar c = true := by
  obtain ⟨layout, hmem, pieces, hpieces, rfl⟩ := exists_pieces_of_read h
  have hall : ∀ layout ∈ [Layout.stored, Layout.rfc3339, Layout.day], ∀ item ∈ layout,
      item.choice.all isClockChar = true := by decide
  exact Layout.isClockChar_of_takes hpieces fun item hitem =>
    List.all_eq_true.mp (hall layout hmem item hitem)

/-- A text that is read as a timestamp has no decimal digits but those of ASCII. -/
theorem isDigit_of_read {cs : List Char} {t : Timestamp} (h : read (String.ofList cs) = .ok t)
    {c : Char} (hc : c ∈ cs) (hdigit : Text.isDecimalDigit c = true) : c.isDigit = true :=
  isDigit_of_isClockChar (isClockChar_of_read h c hc) hdigit

end Timestamp

end FilterQuery
