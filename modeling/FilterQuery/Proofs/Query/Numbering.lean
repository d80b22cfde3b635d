import FilterQuery.Proofs.Search.Lookahead
import FilterQuery.Proofs.Search.Numbering
import FilterQuery.Search.Reader
import FilterQuery.Query.Builder

namespace FilterQuery

/-!
# Numbers in the texts of conditions

A query numbers placeholders by their question marks, without regard to lexemes.  Where
each question mark is a lexeme, its placeholders get the numbers that they have as tokens.

* `lexemes_numberPlaceholders` — which lexemes the numbered text has;
* `Standalone` — the conditions that can stand among others;
* `Standalone.tokens`, `Standalone.append_closing` — their tokens when they are numbered,
  and that they do not run into what stands behind them.
-/

open Search

/-! ### Numbered lexemes -/

/-- The lexemes with a number for each bare placeholder, counting on from `count`. -/
def numberLexemes (count : Nat) : List (List Char) → List (List Char)
  | [] => []
  | l :: ls =>
    if l = ['?'] then ('?' :: Nat.toDigits 10 (count + 1)) :: numberLexemes (count + 1) ls
    else l :: numberLexemes count ls

theorem numberLexemes_append_closing (n : Nat) (ls : List (List Char)) :
    numberLexemes n (ls ++ [[')']]) = numberLexemes n ls ++ [[')']] := by
  induction ls generalizing n with
  | nil => rfl
  | cons l ls ih =>
    rw [List.cons_append, numberLexemes, numberLexemes, ih, ih]
    split <;> rfl

theorem numberPlaceholders_hole {cs : List Char} (h : startsWithDigit cs = false) (n : Nat) :
    numberPlaceholders n ('?' :: cs) =
      ('?' :: Nat.toDigits 10 (n + 1) ++ (numberPlaceholders (n + 1) cs).1,
        (numberPlaceholders (n + 1) cs).2) := by
  rw [numberPlaceholders, if_pos ⟨rfl, by simp [h]⟩]

theorem numberPlaceholders_cons {c : Char} {cs : List Char}
    (h : c ≠ '?' ∨ startsWithDigit cs = true) (n : Nat) :
    numberPlaceholders n (c :: cs) =
      (c :: (numberPlaceholders n cs).1, (numberPlaceholders n cs).2) := by
  rw [numberPlaceholders, if_neg]
  rintro ⟨hc, hdigit⟩
  rcases h with h | h
  · exact h hc
  · exact hdigit h

/-- What has no question mark is passed over. -/
theorem numberPlaceholders_append {l : List Char} (h : '?' ∉ l) (cs : List Char) (n : Nat) :
    numberPlaceholders n (l ++ cs) =
      (l ++ (numberPlaceholders n cs).1, (numberPlaceholders n cs).2) := by
  induction l with
  | nil => rfl
  | cons c l ih =>
    rw [List.mem_cons, not_or] at h
    rw [List.cons_append, numberPlaceholders_cons (.inl (Ne.symm h.1)), ih h.2, List.cons_append]

theorem startsWithDigit_numberPlaceholders (cs : List Char) (n : Nat) :
    startsWithDigit (numberPlaceholders n cs).1 = startsWithDigit cs := by
  cases cs with
  | nil => rfl
  | cons c cs =>
    rw [numberPlaceholders]
    split
    · next h => rw [h.1]; rfl
    · rfl

theorem numberPlaceholders_append_closing (cs : List Char) (n : Nat) :
    numberPlaceholders n (cs ++ [')']) =
      ((numberPlaceholders n cs).1 ++ [')'], (numberPlaceholders n cs).2) := by
  induction cs generalizing n with
  | nil => rfl
  | cons c cs ih =>
    have hdigit : startsWithDigit (cs ++ [')']) = startsWithDigit cs := by cases cs <;> rfl
    rw [List.cons_append]
    by_cases h : c = '?' ∧ startsWithDigit cs = false
    · obtain ⟨rfl, h⟩ := h
      rw [numberPlaceholders_hole (hdigit.trans h), numberPlaceholders_hole h, ih,
        List.append_assoc]
    · have hpass : c ≠ '?' ∨ startsWithDigit cs = true := by
        rw [← Bool.not_eq_false]
        exact Decidable.not_and_iff_or_not.mp h
      rw [numberPlaceholders_cons (hpass.imp_right hdigit.trans), numberPlaceholders_cons hpass,
        ih, List.cons_append]

theorem runLength_isDigit_eq_zero {cs : List Char} (h : startsWithDigit cs = false) :
    runLength Char.isDigit cs = 0 := by
  cases cs with
  | nil => rfl
  | cons c cs =>
    have hc : c.isDigit = false := h
    simp [runLength, hc]

theorem startsWithDigit_eq_false {cs : List Char} (h : runLength Char.isDigit cs = 0) :
    startsWithDigit cs = false := by
  cases cs with
  | nil => rfl
  | cons c cs =>
    cases hc : c.isDigit with
    | false => exact hc
    | true => simp [runLength, hc] at h

/-- A question mark stays one. -/
theorem numberPlaceholders_mark (n : Nat) (cs : List Char) :
    ∃ ds, (numberPlaceholders n ('?' :: cs)).1 = '?' :: ds := by
  rw [numberPlaceholders]
  split <;> exact ⟨_, rfl⟩

/-- A numbered placeholder before what is no digit is a lexeme. -/
theorem lexemes_numbered_hole (n : Nat) {cs : List Char} (h : startsWithDigit cs = false) :
    lexemes ('?' :: (Nat.toDigits 10 n ++ cs)) = ('?' :: Nat.toDigits 10 n) :: lexemes cs := by
  refine lexemes_append_of_length ?_
  show 1 + runLength Char.isDigit (Nat.toDigits 10 n ++ cs) = _
  rw [runLength_append_of_pos fun c hc => Nat.isDigit_of_mem_toDigits (by decide) (by decide) hc,
    runLength_isDigit_eq_zero h, Nat.add_comm]

/-- A lexeme without a question mark stays the first one when placeholders behind it are
    numbered. -/
theorem lexemes_cons_numberPlaceholders {c : Char} {cs : List Char}
    (hl : '?' ∉ cs.take (lexemeLength c cs - 1)) (n : Nat) :
    lexemes (c :: (numberPlaceholders n cs).1) =
      (c :: cs.take (lexemeLength c cs - 1)) ::
        lexemes (numberPlaceholders n (cs.drop (lexemeLength c cs - 1))).1 := by
  have hcs := List.take_append_drop (lexemeLength c cs - 1) cs
  by_cases hmem : '?' ∈ cs.drop (lexemeLength c cs - 1)
  · -- behind the lexeme stands a question mark, which stays one; what is before it stays too
    obtain ⟨t, u, ht, hfirst⟩ := List.eq_append_cons_of_mem hmem
    obtain ⟨v, hv⟩ := numberPlaceholders_mark n u
    have hlength : (cs.take (lexemeLength c cs - 1)).length = lexemeLength c cs - 1 := by
      have hle := congrArg List.length ht
      rw [List.length_drop, List.length_append, List.length_cons] at hle
      rw [List.length_take]
      omega
    have hbehind (ds : List Char) (hds : '?' ∉ ds) :
        (numberPlaceholders n (ds ++ '?' :: u)).1 = ds ++ '?' :: v := by
      rw [numberPlaceholders_append hds, hv]
    generalize hk : lexemeLength c cs = k at *
    generalize cs.take (k - 1) = l at *
    -- the question mark behind the lexeme is a barrier
    have hcs : cs = l ++ t ++ '?' :: u := by rw [← hcs, ht, List.append_assoc]
    have hmark : '?' ∉ l ++ t := by
      rw [List.mem_append, not_or]
      exact ⟨hl, hfirst⟩
    rw [ht, hbehind t hfirst, hcs, hbehind _ hmark,
      lexemes_cons_barrier (.inr rfl) (hcs ▸ hk) (by rw [List.length_append]; omega),
      ← hlength, List.take_left, List.drop_left]
  · -- nothing is numbered at all
    have hnone : '?' ∉ cs := by
      rw [← hcs, List.mem_append, not_or]
      exact ⟨hl, hmem⟩
    have hpass {ds : List Char} (h : '?' ∉ ds) : (numberPlaceholders n ds).1 = ds := by
      have := congrArg Prod.fst (numberPlaceholders_append h [] n)
      simpa [numberPlaceholders] using this
    rw [hpass hnone, hpass hmem, lexemes_cons]

/-- **Numbers in a text.** Where each question mark of a text is a lexeme, the numbered text
    has the numbered lexemes, and as many placeholders are counted as there are. -/
theorem lexemes_numberPlaceholders {cs : List Char} (h : ∀ l ∈ lexemes cs, IsBare l) (n : Nat) :
    lexemes (numberPlaceholders n cs).1 = numberLexemes n (lexemes cs) ∧
      (numberPlaceholders n cs).2 = n + (lexemes cs).count ['?'] := by
  -- by induction on the lexemes: a question mark is followed by no digit, since it would
  -- not be a lexeme of its own, and any other lexeme is passed over
  generalize hls : lexemes cs = ls at *
  induction ls generalizing cs n with
  | nil =>
    obtain rfl := lexemes_eq_nil hls
    exact ⟨rfl, rfl⟩
  | cons l ls ih =>
    cases cs with
    | nil => cases hls
    | cons c cs =>
      rw [lexemes_cons] at hls
      obtain ⟨hl, hls⟩ := List.cons.inj hls
      rw [List.forall_mem_cons] at h
      have hcs := List.take_append_drop (lexemeLength c cs - 1) cs
      by_cases hmark : l = ['?']
      · rw [hmark] at hl
        obtain ⟨rfl, htake⟩ := List.cons.inj hl
        rw [htake, List.nil_append] at hcs
        rw [hcs] at hls
        have hdigit : startsWithDigit cs = false := by
          apply startsWithDigit_eq_false
          have hlength : lexemeLength '?' cs = 1 + runLength Char.isDigit cs := rfl
          have hle := runLength_le Char.isDigit cs
          have hnil := congrArg List.length htake
          rw [List.length_take, hlength, List.length_nil] at hnil
          omega
        obtain ⟨hlexemes, hcount⟩ := ih (n + 1) hls h.2
        rw [numberPlaceholders_hole hdigit]
        refine ⟨?_, ?_⟩
        · -- the next character is a digit after the numbering only if it was one before
          rw [List.cons_append, lexemes_numbered_hole, hlexemes, numberLexemes, if_pos hmark]
          rw [startsWithDigit_numberPlaceholders, hdigit]
        · rw [hcount, hmark, List.count_cons_self]
          omega
      · have hnone : '?' ∉ l := fun hmem => hmark (h.1 (.inl hmem))
        rw [← hl, List.mem_cons, not_or] at hnone
        obtain ⟨hlexemes, hcount⟩ := ih n hls h.2
        rw [numberPlaceholders_cons (.inl (Ne.symm hnone.1)), numberLexemes, if_neg hmark,
          lexemes_cons_numberPlaceholders hnone.2, hl, hlexemes, List.count_cons_of_ne hmark,
          ← hcount]
        refine ⟨rfl, ?_⟩
        have := congrArg Prod.snd (numberPlaceholders_append hnone.2
          (cs.drop (lexemeLength c cs - 1)) n)
        rwa [hcs] at this

/-! ### Numbered tokens -/

theorem numeral?_toDigits (n : Nat) : numeral? (Nat.toDigits 10 n) = some n := by
  rw [numeral?, if_pos]
  · exact congrArg some (Nat.ofDigitChars_ten_toDigits (n := n))
  · exact ⟨Nat.toDigits_ne_nil, List.all_eq_true.mpr fun c hc =>
      Nat.isDigit_of_mem_toDigits (by decide) (by decide) hc⟩

theorem ofLexeme?_toDigits (n : Nat) :
    Token.ofLexeme? ('?' :: Nat.toDigits 10 n) = some (.placeholder (some n)) := by
  have hne := Nat.toDigits_ne_nil (n := n) (b := 10)
  have hnumeral := numeral?_toDigits n
  generalize Nat.toDigits 10 n = ds at *
  cases ds with
  | nil => exact absurd rfl hne
  | cons d ds => rw [← hnumeral]; rfl

/-- The tokens of numbered lexemes are numbered tokens. -/
theorem ofLexeme?_numberLexemes {ls : List (List Char)} (h : ∀ l ∈ ls, IsBare l) (n : Nat) :
    (numberLexemes n ls).filterMap Token.ofLexeme? =
      Token.numbered n (ls.filterMap Token.ofLexeme?) := by
  induction ls generalizing n with
  | nil => rfl
  | cons l ls ih =>
    rw [List.forall_mem_cons] at h
    by_cases hmark : l = ['?']
    · rw [numberLexemes, if_pos hmark, hmark,
        List.filterMap_cons_some (ofLexeme?_toDigits (n + 1)), ih h.2]
      rfl
    · rw [numberLexemes, if_neg hmark, List.filterMap_cons, List.filterMap_cons, ih h.2]
      cases ht : Token.ofLexeme? l with
      | none => rfl
      | some t =>
        obtain ⟨index, rfl⟩ | hpassed := Token.placeholder_or_isPassed t
        · -- no other lexeme is a placeholder
          exact absurd (h.1 (.inr (by rw [ht]; rfl))) hmark
        · exact ((hpassed _).2 n).symm

/-- Bare lexemes have bare tokens. -/
theorem bare_ofLexeme? {ls : List (List Char)} (h : ∀ l ∈ ls, IsBare l) :
    Token.Bare (ls.count ['?']) (ls.filterMap Token.ofLexeme?) := by
  induction ls with
  | nil => rfl
  | cons l ls ih =>
    rw [List.forall_mem_cons] at h
    by_cases hmark : l = ['?']
    · rw [hmark, List.count_cons_self, Nat.add_comm]
      exact Token.bare_placeholder.append (ih h.2)
    · rw [List.count_cons_of_ne hmark, List.filterMap_cons]
      cases ht : Token.ofLexeme? l with
      | none => exact ih h.2
      | some t =>
        obtain ⟨index, rfl⟩ | hpassed := Token.placeholder_or_isPassed t
        · exact absurd (h.1 (.inr (by rw [ht]; rfl))) hmark
        · exact (hpassed _).1.trans (ih h.2)

/-! ### Conditions among others -/

/-- A condition that can stand among others: it is read as an expression, its placeholders
    are its question marks, and a parenthesis behind it closes what was open before it. -/
structure Standalone (s : String) : Prop where
  reads : (Expression.ofText? s).isSome = true
  bare : ∀ l ∈ lexemes s.toList, IsBare l
  closed : lexemes (s.toList ++ [')']) = lexemes s.toList ++ [[')']]

/-- The number of placeholders of a condition. -/
def placeholderCount (s : String) : Nat := (Token.placeholders (Token.ofText s)).length

/-- A condition with numbers for its placeholders. -/
def numberedCondition (n : Nat) (s : String) : String :=
  String.ofList (numberPlaceholders n s.toList).1

namespace Standalone

variable {s : String}

theorem isBare_tokens (h : Standalone s) : Token.Bare (placeholderCount s) (Token.ofText s) := by
  have hbare := bare_ofLexeme? h.bare
  rw [← Token.ofText_eq] at hbare
  rw [placeholderCount, hbare, List.length_replicate]
  exact hbare

theorem count_eq (h : Standalone s) (n : Nat) :
    (numberPlaceholders n s.toList).2 = n + placeholderCount s := by
  have hbare := bare_ofLexeme? h.bare
  rw [← Token.ofText_eq] at hbare
  rw [(lexemes_numberPlaceholders h.bare n).2, placeholderCount, hbare, List.length_replicate]

theorem tokens (h : Standalone s) (n : Nat) :
    Token.ofText (numberedCondition n s) = Token.numbered n (Token.ofText s) := by
  rw [Token.ofText_eq, numberedCondition, String.toList_ofList,
    (lexemes_numberPlaceholders h.bare n).1, ofLexeme?_numberLexemes h.bare, Token.ofText_eq]

/-- The numbered condition does not run into what stands behind a parenthesis. -/
theorem append_closing (h : Standalone s) (n : Nat) (rest : List Char) :
    lexemes ((numberedCondition n s).toList ++ ')' :: rest) =
      lexemes (numberedCondition n s).toList ++ [')'] :: lexemes rest := by
  have hbare : ∀ l ∈ lexemes (s.toList ++ [')']), IsBare l := by
    rw [h.closed]
    intro l hl
    rcases List.mem_append.mp hl with hl | hl
    · exact h.bare l hl
    · obtain rfl := List.mem_singleton.mp hl
      exact Spells.isBare_break (by decide)
  -- numbers do not move the parenthesis behind the condition
  have hclosed : lexemes ((numberedCondition n s).toList ++ [')']) =
      lexemes (numberedCondition n s).toList ++ [[')']] := by
    have hnumbered := (lexemes_numberPlaceholders hbare n).1
    rw [numberPlaceholders_append_closing, h.closed, numberLexemes_append_closing,
      ← (lexemes_numberPlaceholders h.bare n).1] at hnumbered
    rw [numberedCondition, String.toList_ofList]
    exact hnumbered
  have hbreak : lexemes (')' :: rest) = [')'] :: lexemes rest := lexemes_break (by decide) rest
  rw [lexemes_append_barrier (.inl rfl) hclosed, hbreak]

end Standalone

end FilterQuery
