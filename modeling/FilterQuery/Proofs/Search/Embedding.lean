import FilterQuery.Proofs.Search.Tests

namespace FilterQuery.Search.Expression

/-!
# Conditions inside conditions

A condition that is read from some tokens is also read where a closing parenthesis and
more stand behind them, and with other numbers for its placeholders.  More nesting may be
allowed than was needed.

* `Carries.succ_operand` — the step of the reader of operands;
* `carries` — what the readers read they still read inside of other tokens.
-/

variable {σ : Nat → Nat} {behind : List Token}

namespace Carries

variable {n m : Nat} (ih : Carries σ behind n m)

include ih

theorem succ_cast {w : String} {ts : List Token} {e : Expression} {r : List Token}
    (h : readOperand (n + 1) (.keyword .cast w :: ts) = .ok (e, r)) :
    readOperand (m + 1) (.keyword .cast w :: inside σ behind ts) =
      .ok (e.renumber σ, inside σ behind r) := by
  cases ts with
  | nil => cases h
  | cons t ts =>
    cases t with
    | opening =>
      show readOperand (m + 1) (.keyword .cast w :: .opening :: inside σ behind ts) = _
      rw [readOperand] at h ⊢
      split at h
      · cases h
      · next a w' rest ha =>
        rw [ih.read ha]
        dsimp only [inside_cons, Token.renumber]
        split at h
        · cases h
        · next type rest htype =>
          cases h
          rw [readType_inside htype]
          rfl
      · cases h
    | _ => cases h

theorem succ_choice {w : String} {ts : List Token} {e : Expression} {r : List Token}
    (h : readOperand (n + 1) (.keyword .choice w :: ts) = .ok (e, r)) :
    readOperand (m + 1) (.keyword .choice w :: inside σ behind ts) =
      .ok (e.renumber σ, inside σ behind r) := by
  by_cases hguard : ∃ w' us, ts = .keyword .guard w' :: us
  · obtain ⟨w', us, rfl⟩ := hguard
    exact ih.branches none h
  · have hts (w' : String) (us : List Token) : ts ≠ .keyword .guard w' :: us :=
      fun heq => hguard ⟨w', us, heq⟩
    have hinside (w' : String) (us : List Token) :
        inside σ behind ts ≠ .keyword .guard w' :: us := by
      intro heq
      obtain ⟨vs, rfl⟩ := eq_cons_of_inside_eq_cons heq (by simp) (by simp)
      exact hts w' vs rfl
    rw [Grammar.readOperand_choice w hts] at h
    rw [Grammar.readOperand_choice w hinside]
    split at h
    · cases h
    · next a w' rest ha =>
      rw [ih.read ha]
      exact ih.branches (some a) h
    · cases h

theorem succ_sign {s : Sign} {ts : List Token} {e : Expression} {r : List Token}
    (h : readOperand (n + 1) (.sign s :: ts) = .ok (e, r)) :
    readOperand (m + 1) (.sign s :: inside σ behind ts) =
      .ok (e.renumber σ, inside σ behind r) := by
  cases hs : Modifier.ofSign? s with
  | none => cases s <;> first | cases h | cases hs
  | some md =>
    -- a minus and the number behind it may be the least integer
    by_cases hlow : s = .minus ∧ ∃ us, ts = .integer 9223372036854775808 :: us
    · obtain ⟨rfl, us, rfl⟩ := hlow
      cases h
      rfl
    · have hinside :
          ¬(s = .minus ∧ ∃ us, inside σ behind ts = .integer 9223372036854775808 :: us) := by
        rintro ⟨hminus, us, heq⟩
        obtain ⟨vs, rfl⟩ := eq_cons_of_inside_eq_cons heq (by simp) (by simp)
        exact hlow ⟨hminus, vs, rfl⟩
      rw [Grammar.readOperand_sign hs hlow] at h
      rw [Grammar.readOperand_sign hs hinside]
      split at h
      · cases h
      · next a rest ha =>
        cases h
        rw [ih.read ha]
        rfl

theorem succ_word {t : Token} (word : String) (quoted double : Bool) {ts : List Token}
    {e : Expression} {r : List Token}
    (hcall : ∀ k us, readOperand (k + 1) (t :: .opening :: us) = readArguments k word us)
    (hpath : ∀ k us, (∀ vs, us ≠ .opening :: vs) →
      readOperand (k + 1) (t :: us) = readPath [word] quoted double us)
    (h : readOperand (n + 1) (t :: ts) = .ok (e, r)) :
    readOperand (m + 1) (t :: inside σ behind ts) = .ok (e.renumber σ, inside σ behind r) := by
  by_cases hopening : ∃ us, ts = .opening :: us
  · obtain ⟨us, rfl⟩ := hopening
    rw [hcall] at h
    rw [inside_cons]
    exact (hcall m _).trans (ih.arguments h)
  · have hinside (us : List Token) : inside σ behind ts ≠ .opening :: us := by
      intro heq
      obtain ⟨vs, rfl⟩ := eq_cons_of_inside_eq_cons heq (by simp) (by simp)
      exact hopening ⟨vs, rfl⟩
    rw [hpath n ts fun vs heq => hopening ⟨vs, heq⟩] at h
    rw [hpath m _ hinside]
    exact readPath_inside [word] h

theorem succ_group {ts : List Token} {e : Expression} {r : List Token}
    (h : readOperand (n + 1) (.opening :: ts) = .ok (e, r)) :
    readOperand (m + 1) (.opening :: inside σ behind ts) =
      .ok (e.renumber σ, inside σ behind r) := by
  rw [readOperand] at h ⊢
  split at h
  · cases h
  · next a rest ha =>
    cases h
    rw [ih.items ha]
    rfl
  · next items rest hitems ha =>
    -- a row of none or of several items
    cases h
    rw [ih.items ha]
    cases items with
    | nil => rfl
    | cons a items =>
      cases items with
      | nil => exact absurd rfl (hitems a)
      | cons b items => rfl

theorem succ_not {w : String} {ts : List Token} {e : Expression} {r : List Token}
    (h : readOperand (n + 1) (.keyword .not w :: ts) = .ok (e, r)) :
    readOperand (m + 1) (.keyword .not w :: inside σ behind ts) =
      .ok (e.renumber σ, inside σ behind r) := by
  rw [readOperand] at h ⊢
  split at h
  · cases h
  · next a rest ha =>
    cases h
    rw [ih.read ha]
    rfl

omit ih in
theorem succ_text {s : String} {ts : List Token} {e : Expression} {r : List Token}
    (h : readOperand (n + 1) (.text s :: ts) = .ok (e, r)) :
    readOperand (m + 1) (.text s :: inside σ behind ts) =
      .ok (e.renumber σ, inside σ behind r) := by
  by_cases hpoint : ∃ us, ts = .point :: us
  · obtain ⟨us, rfl⟩ := hpoint
    exact readPath_inside [s] h
  · have hinside (us : List Token) : inside σ behind ts ≠ .point :: us := by
      intro heq
      obtain ⟨vs, rfl⟩ := eq_cons_of_inside_eq_cons heq (by simp) (by simp)
      exact hpoint ⟨vs, rfl⟩
    rw [Grammar.readOperand_text s fun us heq => hpoint ⟨us, heq⟩] at h
    cases h
    exact Grammar.readOperand_text s hinside

theorem succ_operand (hσ : σ 0 = 0) {ts : List Token} {e : Expression} {r : List Token}
    (h : readOperand (n + 1) ts = .ok (e, r)) :
    readOperand (m + 1) (inside σ behind ts) = .ok (e.renumber σ, inside σ behind r) := by
  cases ts with
  | nil => cases h
  | cons t ts =>
    cases t with
    | integer k => cases h; rfl
    | real x => cases h; rfl
    | parameter word => cases h; rfl
    | placeholder index =>
      cases h
      cases index with
      | none =>
        -- a placeholder without a number has the number zero
        show Except.ok (Expression.placeholder 0, _) = .ok (Expression.placeholder (σ 0), _)
        rw [hσ]
        rfl
      | some k => rfl
    | text s => exact succ_text h
    | opening => exact ih.succ_group h
    | sign s => exact ih.succ_sign h
    | name s =>
      refine ih.succ_word s false false (fun _ _ => rfl) (fun k us hus => ?_) h
      cases us with
      | nil => rfl
      | cons u us => cases u <;> first | rfl | exact absurd rfl (hus us)
    | quotedName s double =>
      refine ih.succ_word s true double (fun _ _ => rfl) (fun k us hus => ?_) h
      cases us with
      | nil => rfl
      | cons u us => cases u <;> first | rfl | exact absurd rfl (hus us)
    | keyword k w =>
      cases k with
      | not => exact ih.succ_not h
      | null => cases h; rfl
      | moment => cases h; rfl
      | cast => exact ih.succ_cast h
      | choice => exact ih.succ_choice h
      | raise => exact readRaise_inside h
      | presence =>
        cases ts with
        | nil => cases h
        | cons t ts => cases t <;> cases h
      | like | glob | regexp | matching | finish =>
        refine ih.succ_word w false false (fun _ _ => rfl) (fun k us hus => ?_) h
        cases us with
        | nil => rfl
        | cons u us => cases u <;> first | rfl | exact absurd rfl (hus us)
      | _ => cases h
    | _ => cases h

end Carries

/-- **Conditions inside others.** What the readers read they read as well where a closing
    parenthesis and more stand behind it, with other numbers for placeholders. -/
theorem carries (hσ : σ 0 = 0) {n m : Nat} (h : n ≤ m) : Carries σ behind n m := by
  -- by induction on the nesting; each reader has its own step
  induction n generalizing m with
  | zero => exact .zero m
  | succ n ih =>
    obtain ⟨k, rfl⟩ : ∃ k, m = k + 1 := ⟨m - 1, by omega⟩
    have ih : Carries σ behind n k := ih (by omega)
    exact {
      read := ih.succ_read
      operand := ih.succ_operand hσ
      further := ih.succ_further
      test := ih.succ_test
      identity := ih.succ_identity
      items := ih.succ_items
      arguments := ih.succ_arguments
      branches := ih.succ_branches
      parts := ih.succ_parts }

end FilterQuery.Search.Expression
