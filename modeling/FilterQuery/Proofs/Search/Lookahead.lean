import FilterQuery.Proofs.Search.Lengths

namespace FilterQuery.Search

/-!
# How far lexemes look ahead

A lexeme that ends before a closing parenthesis or a question mark ends there whatever
stands behind that sign.  So the lexemes before such a sign do not change with what stands
behind it.

* `Barrier` — the two signs;
* `Decided` — whether a length stays within a bound does not depend on some text, nor does
  the length if it stays;
* `lexemeLength_decided` — so it is with lexemes before a barrier;
* `lexemes_append_barrier` — lexemes before a barrier do not depend on what stands behind.
-/

/-- The signs that a lexeme stops at or goes over, without regard to what follows. -/
def Barrier (b : Char) : Prop := b = ')' ∨ b = '?'

/-- The length is the same whatever text it depends on, and within the bound, or it is
    always beyond the bound. -/
def Decided (bound : Nat) (f : List Char → Nat) : Prop :=
  (∃ k ≤ bound, ∀ u, f u = k) ∨ ∀ u, bound < f u

namespace Decided

variable {bound : Nat} {f g : List Char → Nat}

theorem const {k : Nat} (h : k ≤ bound) : Decided bound fun _ => k := .inl ⟨k, h, fun _ => rfl⟩

theorem congr (hf : Decided bound f) (h : ∀ u, g u = f u) : Decided bound g := by
  obtain rfl : g = f := funext h
  exact hf

theorem add (j : Nat) (hf : Decided bound f) : Decided (bound + j) fun u => j + f u := by
  unfold Decided
  rw [Nat.add_comm bound j]
  rcases hf with ⟨k, hk, hf⟩ | hf
  · exact .inl ⟨j + k, by omega, fun u => congrArg (j + ·) (hf u)⟩
  · exact .inr fun u => Nat.add_lt_add_left (hf u) j

/-- A length within the bound for one text is the length for every text. -/
theorem eq_of_le (hf : Decided bound f) {u : List Char} (h : f u ≤ bound) (v : List Char) :
    f v = f u := by
  rcases hf with ⟨k, _, hf⟩ | hf
  · rw [hf u, hf v]
  · exact absurd h (Nat.not_le.mpr (hf u))

end Decided

section Lengths

variable {b : Char}

/-! ### Runs -/

theorem runLength_decided (p : Char → Bool) (t : List Char) :
    Decided t.length fun u => runLength p (t ++ b :: u) := by
  cases hp : p b with
  | false =>
    -- the run ends at the barrier at the latest
    exact (Decided.const (runLength_le p t)).congr fun u => runLength_append_of_neg hp t u
  | true =>
    induction t with
    | nil => exact .inr fun u => by simp [runLength, hp]
    | cons c t ih =>
      cases hc : p c with
      | false => exact (Decided.const (Nat.zero_le _)).congr fun u => by simp [runLength, hc]
      | true =>
        exact (ih.add 1).congr fun u => by simp [runLength, hc, Nat.add_comm]

/-! ### Quotations and comments -/

theorem quotationLength_pos (quote c : Char) (cs : List Char) :
    0 < quotationLength quote (c :: cs) := by
  cases cs with
  | nil => simp [quotationLength]
  | cons d cs =>
    rw [quotationLength]
    split
    · split <;> omega
    · omega

theorem quotationLength_decided {quote : Char} (hquote : b ≠ quote) :
    ∀ t : List Char, Decided t.length fun u => quotationLength quote (t ++ b :: u)
  | [] => .inr fun u => quotationLength_pos quote b u
  | [c] => by
    by_cases hc : c = quote
    · refine (Decided.const (k := 1) (by simp)).congr fun u => ?_
      simp [quotationLength, hc, hquote]
    · refine .inr fun u => ?_
      have := quotationLength_pos quote b u
      simp only [List.cons_append, List.nil_append, quotationLength, hc, if_false,
        List.length_singleton]
      omega
  | c :: d :: t => by
    by_cases hc : c = quote
    · by_cases hd : d = quote
      · -- a doubled sign is one of the quoted text
        have hrest := quotationLength_decided hquote t
        exact (hrest.add 2).congr fun u => by simp [quotationLength, hc, hd]
      · refine (Decided.const (k := 1) (by simp)).congr fun u => ?_
        simp [quotationLength, hc, hd]
    · have hrest := quotationLength_decided hquote (d :: t)
      exact (hrest.add 1).congr fun u => by simp [quotationLength, hc]

theorem commentLength_pos (c : Char) (cs : List Char) : 0 < commentLength (c :: cs) := by
  cases cs with
  | nil => simp [commentLength]
  | cons d cs =>
    rw [commentLength]
    split <;> omega

theorem commentLength_decided (hslash : b ≠ '/') :
    ∀ t : List Char, Decided t.length fun u => commentLength (t ++ b :: u)
  | [] => .inr fun u => commentLength_pos b u
  | [c] => by
    refine .inr fun u => ?_
    have := commentLength_pos b u
    simp only [List.cons_append, List.nil_append, commentLength, hslash, and_false, if_false,
      List.length_singleton]
    omega
  | c :: d :: t => by
    by_cases hend : c = '*' ∧ d = '/'
    · refine (Decided.const (k := 2) (by simp)).congr fun u => ?_
      simp [commentLength, hend]
    · have hrest := commentLength_decided hslash (d :: t)
      exact (hrest.add 1).congr fun u => by simp [commentLength, hend]

theorem closedRunLength_decided (quote : Char) (hquote : b ≠ quote) (t : List Char) :
    Decided t.length fun u => closedRunLength quote (t ++ b :: u) := by
  induction t with
  | nil =>
    refine .inr fun u => ?_
    have hrun : runLength (fun c => c ≠ quote) (b :: u) =
        1 + runLength (fun c => c ≠ quote) u := by simp [runLength, hquote, Nat.add_comm]
    simp only [List.nil_append, closedRunLength, hrun, List.length_nil]
    split <;> omega
  | cons c t ih =>
    by_cases hc : c = quote
    · refine (Decided.const (k := 1) (by simp)).congr fun u => ?_
      simp [closedRunLength, runLength, hc]
    · refine (ih.add 1).congr fun u => ?_
      have hrun : runLength (fun c => c ≠ quote) (c :: (t ++ b :: u)) =
          1 + runLength (fun c => c ≠ quote) (t ++ b :: u) := by
        simp [runLength, hc, Nat.add_comm]
      simp only [List.cons_append, closedRunLength, hrun, List.length_cons]
      split <;> split <;> omega

/-! ### Numbers -/

variable (hb : Barrier b)
include hb

theorem barrier_ne {c : Char} (hc : c ≠ ')' ∧ c ≠ '?') : b ≠ c := by
  rcases hb with rfl | rfl
  · exact hc.1.symm
  · exact hc.2.symm

theorem isNumberChar_barrier : isNumberChar b = false := by rcases hb with rfl | rfl <;> decide

theorem isHexChar_barrier : isHexChar b = false := by rcases hb with rfl | rfl <;> decide

theorem isWordChar_barrier : isWordChar b = false := by rcases hb with rfl | rfl <;> decide

theorem isDigit_barrier : b.isDigit = false := by rcases hb with rfl | rfl <;> decide

/-- What stands in the place of the letter and the sign of a power decides on its length. -/
theorem powerLength_sign_settled (e s : Char) (t : List Char) :
    ∃ k ≤ (e :: s :: t).length, ∀ u, powerLength (e :: s :: t ++ b :: u) = k := by
  have hrun (t u : List Char) := runLength_append_of_neg (isNumberChar_barrier hb) t u
  have hlength := runLength_le isNumberChar t
  by_cases he : e ≠ 'e' ∧ e ≠ 'E'
  · refine ⟨0, Nat.zero_le _, fun u => ?_⟩
    cases t <;> exact if_pos he
  by_cases hs : s.isDigit = true
  · refine ⟨2 + runLength isNumberChar t, ?_, fun u => ?_⟩
    · simp only [List.length_cons]
      omega
    · rw [← hrun t u]
      cases t <;> exact (if_neg he).trans (if_pos hs)
  cases t with
  | nil =>
    refine ⟨0, Nat.zero_le _, fun u => (if_neg he).trans ((if_neg hs).trans (if_neg ?_))⟩
    simp [isDigit_barrier hb]
  | cons d t =>
    by_cases hd : (s = '+' ∨ s = '-') ∧ d.isDigit = true
    · refine ⟨3 + runLength isNumberChar t, ?_, fun u => ?_⟩
      · have hrest := runLength_le isNumberChar t
        simp only [List.length_cons]
        omega
      · rw [← hrun t u]
        exact (if_neg he).trans ((if_neg hs).trans (if_pos hd))
    · exact ⟨0, Nat.zero_le _, fun u => (if_neg he).trans ((if_neg hs).trans (if_neg hd))⟩

/-- A number does not look behind a barrier for its power of ten. -/
theorem powerLength_settled (t : List Char) :
    ∃ k ≤ t.length, ∀ u, powerLength (t ++ b :: u) = k := by
  cases t with
  | nil =>
    refine ⟨0, Nat.le_refl 0, fun u => ?_⟩
    cases u with
    | nil => rfl
    | cons c u => cases u <;> rcases hb with rfl | rfl <;> simp [powerLength]
  | cons e t =>
    cases t with
    | nil =>
      refine ⟨0, Nat.zero_le _, fun u => ?_⟩
      cases u <;> rcases hb with rfl | rfl <;> simp [powerLength]
    | cons s t => exact powerLength_sign_settled hb e s t

theorem placesLength_settled (t : List Char) :
    ∃ k ≤ t.length, ∀ u, placesLength (t ++ b :: u) = k := by
  cases t with
  | nil => exact ⟨0, Nat.le_refl 0, fun u => by rcases hb with rfl | rfl <;> rfl⟩
  | cons c t =>
    by_cases hc : c = '.'
    · subst hc
      refine ⟨1 + runLength isNumberChar t, ?_, fun u => ?_⟩
      · have := runLength_le isNumberChar t
        rw [List.length_cons]
        omega
      · rw [← runLength_append_of_neg (isNumberChar_barrier hb) t u]
        rfl
    · refine ⟨0, Nat.zero_le _, fun u => ?_⟩
      rw [List.cons_append, placesLength]
      rintro rest heq
      exact hc (List.cons.inj heq).1

theorem decimalLength_settled (t : List Char) :
    ∃ k ≤ t.length, ∀ u, decimalLength (t ++ b :: u) = k := by
  have hwhole := runLength_le isNumberChar t
  obtain ⟨places, hplaces, hplacesSame⟩ :=
    placesLength_settled hb (t.drop (runLength isNumberChar t))
  obtain ⟨power, hpower, hpowerSame⟩ :=
    powerLength_settled hb (t.drop (runLength isNumberChar t + places))
  rw [List.length_drop] at hplaces hpower
  refine ⟨runLength isNumberChar t + places + power, by omega, fun u => ?_⟩
  rw [decimalLength_eq, runLength_append_of_neg (isNumberChar_barrier hb),
    List.drop_append_of_le_length hwhole, hplacesSame,
    List.drop_append_of_le_length (by omega), hpowerSame]

theorem plainNumberLength_settled (t : List Char) :
    ∃ k ≤ t.length, ∀ u, plainNumberLength (t ++ b :: u) = k := by
  by_cases hhex : ∃ x d rest, t = '0' :: x :: d :: rest ∧
      (x = 'x' ∨ x = 'X') ∧ (hexValue? d).isSome = true
  · obtain ⟨x, d, rest, rfl, hx⟩ := hhex
    refine ⟨3 + runLength isHexChar rest, ?_, fun u => ?_⟩
    · have := runLength_le isHexChar rest
      simp only [List.length_cons]
      omega
    · rw [← runLength_append_of_neg (isHexChar_barrier hb) rest u]
      exact if_pos hx
  · obtain ⟨k, hk, hdecimal⟩ := decimalLength_settled hb t
    refine ⟨k, hk, fun u => ?_⟩
    rw [plainNumberLength_of_not_hex, hdecimal]
    rintro x d rest heq ⟨hx, hd⟩
    -- the barrier is no part of what makes a number hexadecimal
    cases t with
    | nil =>
      obtain rfl := (List.cons.inj heq).1
      rcases hb with h | h <;> cases h
    | cons c t =>
      obtain ⟨rfl, hbehind⟩ := List.cons.inj heq
      cases t with
      | nil =>
        obtain rfl := (List.cons.inj hbehind).1
        rcases hb with rfl | rfl <;> rcases hx with h | h <;> cases h
      | cons y t =>
        obtain ⟨rfl, hdigits⟩ := List.cons.inj hbehind
        cases t with
        | nil =>
          obtain rfl := (List.cons.inj hdigits).1
          rcases hb with rfl | rfl <;> cases hd
        | cons e t =>
          obtain ⟨rfl, -⟩ := List.cons.inj hdigits
          exact hhex ⟨y, e, t, rfl, hx, hd⟩

/-- A number ends before a barrier. -/
theorem numberLength_settled (t : List Char) :
    ∃ k ≤ t.length, ∀ u, numberLength (t ++ b :: u) = k := by
  obtain ⟨n, hn, hsame⟩ := plainNumberLength_settled hb t
  refine ⟨n + runLength isWordChar (t.drop n), ?_, fun u => ?_⟩
  · have := runLength_le isWordChar (t.drop n)
    rw [List.length_drop] at this
    omega
  · rw [numberLength_eq, hsame, List.drop_append_of_le_length hn,
      runLength_append_of_neg (isWordChar_barrier hb)]

/-! ### Lexemes -/

theorem signLength_barrier (c : Char) : signLength c [b] ≤ 1 := by
  have hrun : runLength isWordChar [b] = 0 :=
    runLength_append_of_neg (isWordChar_barrier hb) [] []
  rcases hb with rfl | rfl
  all_goals
    unfold signLength
    split
    case h_13 =>
      rw [hrun]
      split <;> decide
    all_goals rename_i heq
    all_goals cases heq
    all_goals decide

theorem signLength_decided (c : Char) (t : List Char) :
    Decided (t.length + 1) fun u => signLength c (t ++ b :: u) := by
  have hword (t u : List Char) := runLength_append_of_neg (isWordChar_barrier hb) t u
  cases t with
  | nil =>
    have hopens : ¬Opens c b := by rcases hb with rfl | rfl <;> simp [Opens]
    by_cases hc : isWordChar c = true
    · refine (Decided.const (k := 1) (Nat.le_refl 1)).congr fun u => ?_
      rw [List.nil_append, signLength_cons hopens, if_pos hc, ← List.nil_append (b :: u), hword]
      rfl
    · refine (Decided.const (signLength_barrier hb c)).congr fun u => ?_
      rw [List.nil_append, signLength_cons hopens, if_neg hc]
  | cons d t =>
    by_cases hopens : Opens c d
    · -- one case for each way in which two characters open a lexeme
      obtain ⟨rfl, rfl | rfl⟩ | ⟨rfl, rfl⟩ | ⟨rfl, hd⟩ | ⟨rfl | rfl, rfl⟩ := hopens
      · -- a comment up to the end of the line
        exact (runLength_decided (b := b) (fun d => decide (d ≠ '\n')) t).add 2
      · -- an arrow with one head or two
        cases t with
        | nil =>
          refine (Decided.const (k := 2) (Nat.le_refl 2)).congr fun u => ?_
          rcases hb with rfl | rfl <;> rfl
        | cons e t =>
          by_cases he : e = '>'
          · subst he
            exact (Decided.const (k := 3) (by simp)).congr fun u => rfl
          · refine (Decided.const (k := 2) (by simp)).congr fun u => ?_
            simp [signLength, he]
      · have hcomment := commentLength_decided (barrier_ne hb (by decide)) t
        refine (hcomment.add 2).congr fun u => ?_
        cases t <;> rfl
      · -- a number that begins with its point
        obtain ⟨k, hk, hnumber⟩ := numberLength_settled hb ('.' :: d :: t)
        refine (Decided.const (k := k) hk).congr fun u => ?_
        rw [← hnumber u]
        simp [signLength, hd]
      · exact (closedRunLength_decided '\'' (barrier_ne hb (by decide)) t).add 2
      · exact (closedRunLength_decided '\'' (barrier_ne hb (by decide)) t).add 2
    · by_cases hc : isWordChar c = true
      · have hrun := runLength_le isWordChar (d :: t)
        refine (Decided.const (k := 1 + runLength isWordChar (d :: t)) (by omega)).congr fun u => ?_
        rw [List.cons_append, signLength_cons hopens, if_pos hc, ← List.cons_append, hword]
      · have hle := signLength_singleton_le hopens
        refine (Decided.const (k := signLength c [d]) ?_).congr fun u => ?_
        · rw [List.length_cons]
          omega
        · rw [List.cons_append, signLength_cons hopens, if_neg hc]

/-- A lexeme that ends before a barrier ends there whatever stands behind the barrier. -/
theorem lexemeLength_decided (c : Char) (t : List Char) :
    Decided (t.length + 1) fun u => lexemeLength c (t ++ b :: u) := by
  have hword (t u : List Char) := runLength_append_of_neg (isWordChar_barrier hb) t u
  by_cases hquote : c ∈ ['\'', '"', Char.ofNat 96]
  · have hc : b ≠ c := by
      refine barrier_ne hb ?_
      simp only [List.mem_cons, List.not_mem_nil, or_false] at hquote
      obtain rfl | rfl | rfl := hquote <;> decide
    have hquoted := quotationLength_decided hc t
    exact (hquoted.add 1).congr fun u => (lexemeLength_eq c _).trans (if_pos hquote)
  by_cases hbracket : c = '['
  · have hclosed := closedRunLength_decided ']' (barrier_ne hb (by decide)) t
    exact (hclosed.add 1).congr fun u => by rw [lexemeLength_eq, if_neg hquote, if_pos hbracket]
  by_cases hmark : c = '?'
  · have hle := runLength_le Char.isDigit t
    refine (Decided.const (k := 1 + runLength Char.isDigit t) (by omega)).congr fun u => ?_
    rw [lexemeLength_eq, if_neg hquote, if_neg hbracket, if_pos hmark,
      runLength_append_of_neg (isDigit_barrier hb)]
  by_cases hparameter : c ∈ ['$', '@', ':', '#']
  · have hle := runLength_le isWordChar t
    refine (Decided.const (k := 1 + runLength isWordChar t) (by omega)).congr fun u => ?_
    rw [lexemeLength_eq, if_neg hquote, if_neg hbracket, if_neg hmark, if_pos hparameter, hword]
  by_cases hdigit : c.isDigit = true
  · obtain ⟨k, hk, hnumber⟩ := numberLength_settled hb (c :: t)
    refine (Decided.const hk).congr fun u => ?_
    rw [lexemeLength_eq, if_neg hquote, if_neg hbracket, if_neg hmark, if_neg hparameter,
      if_pos hdigit, ← List.cons_append, hnumber]
  by_cases horder : c = byteOrderMark
  · refine (Decided.const (k := 1) (by omega)).congr fun u => ?_
    rw [lexemeLength_eq, if_neg hquote, if_neg hbracket, if_neg hmark, if_neg hparameter,
      if_neg hdigit, if_pos horder]
  · refine (signLength_decided hb c t).congr fun u => ?_
    rw [lexemeLength_eq, if_neg hquote, if_neg hbracket, if_neg hmark, if_neg hparameter,
      if_neg hdigit, if_neg horder]

/-- The first lexeme of a text, if it ends before a barrier, with another text behind the
    barrier. -/
theorem lexemes_cons_barrier {c : Char} {t u : List Char} {k : Nat}
    (hlength : lexemeLength c (t ++ b :: u) = k) (hk : k ≤ t.length + 1) (v : List Char) :
    lexemes (c :: (t ++ b :: v)) =
      (c :: t.take (k - 1)) :: lexemes (t.drop (k - 1) ++ b :: v) := by
  have hsame := (lexemeLength_decided hb c t).eq_of_le (hlength ▸ hk) v
  have hle : k - 1 ≤ t.length := by omega
  rw [lexemes_cons, hsame, hlength, List.take_append_of_le_length hle,
    List.drop_append_of_le_length hle]

/-- **Lexemes before a barrier.** If a barrier is a lexeme of its own at the end of a text,
    then the lexemes before it are the same whatever stands behind it. -/
theorem lexemes_append_barrier {cs : List Char} {ls : List (List Char)}
    (h : lexemes (cs ++ [b]) = ls ++ [[b]]) (u : List Char) :
    lexemes (cs ++ b :: u) = ls ++ lexemes (b :: u) := by
  -- by induction on the lexemes before the barrier; none of them goes over it
  induction ls generalizing cs with
  | nil =>
    cases cs with
    | nil => rfl
    | cons c cs =>
      rw [List.cons_append, lexemes_cons] at h
      obtain ⟨hfirst, hrest⟩ := List.cons.inj h
      have hnil : cs ++ [b] = [] := by
        rw [← List.take_append_drop (lexemeLength c (cs ++ [b]) - 1) (cs ++ [b]),
          (List.cons.inj hfirst).2, lexemes_eq_nil hrest, List.append_nil]
      simp at hnil
  | cons l ls ih =>
    cases cs with
    | nil =>
      rw [List.nil_append, lexemes_cons, List.drop_nil, lexemes_nil] at h
      simp at h
    | cons c cs =>
      rw [List.cons_append, lexemes_cons] at h
      obtain ⟨hfirst, hrest⟩ := List.cons.inj h
      have hk : lexemeLength c (cs ++ [b]) ≤ cs.length + 1 := by
        -- else nothing would be left for the barrier
        refine Nat.le_of_not_lt fun hlong => ?_
        rw [List.drop_eq_nil_of_le (by rw [List.length_append, List.length_singleton]; omega)]
          at hrest
        simp at hrest
      rw [List.take_append_of_le_length (by omega)] at hfirst
      rw [List.drop_append_of_le_length (by omega)] at hrest
      rw [List.cons_append, lexemes_cons_barrier hb rfl hk, hfirst, ih hrest, List.cons_append]

end Lengths

end FilterQuery.Search
