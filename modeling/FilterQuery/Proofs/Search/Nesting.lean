import FilterQuery.Proofs.Search.Words

namespace FilterQuery.Search.Expression

/-!
# Readers with nesting

The readers of conditions call each other, each time with less nesting left.  So what all of
them read inside of other tokens is one statement, and each reader has its own step: from what
all do with some nesting to what it does with one level more.

* `Carries` — what the readers read they still read inside of other tokens;
* `Carries.succ_read`, `Carries.succ_items`, `Carries.succ_identity`, `Carries.succ_parts` — the
  steps of the readers of expressions, lists, identity tests and choices.
-/

variable {σ : Nat → Nat} {behind : List Token}

/-- What is read with some nesting is read with some other nesting inside of other
    tokens. -/
structure Carries (σ : Nat → Nat) (behind : List Token) (n m : Nat) : Prop where
  read : ∀ {least ts e r}, Expression.read n least ts = .ok (e, r) →
    Expression.read m least (inside σ behind ts) = .ok (e.renumber σ, inside σ behind r)
  operand : ∀ {ts e r}, readOperand n ts = .ok (e, r) →
    readOperand m (inside σ behind ts) = .ok (e.renumber σ, inside σ behind r)
  further : ∀ {least a ts e r}, readFurther n least a ts = .ok (e, r) →
    readFurther m least (a.renumber σ) (inside σ behind ts) =
      .ok (e.renumber σ, inside σ behind r)
  test : ∀ {a ts e r}, readTest n a ts = .ok (e, r) →
    readTest m (a.renumber σ) (inside σ behind ts) = .ok (e.renumber σ, inside σ behind r)
  identity : ∀ {a ts e r}, readIdentity n a ts = .ok (e, r) →
    readIdentity m (a.renumber σ) (inside σ behind ts) = .ok (e.renumber σ, inside σ behind r)
  items : ∀ {ts es r}, readItems n ts = .ok (es, r) →
    readItems m (inside σ behind ts) = .ok (renumberList σ es, inside σ behind r)
  arguments : ∀ {f ts e r}, readArguments n f ts = .ok (e, r) →
    readArguments m f (inside σ behind ts) = .ok (e.renumber σ, inside σ behind r)
  branches : ∀ (base : Option Expression) {ts e r}, readBranches n base ts = .ok (e, r) →
    readBranches m (base.map (renumber σ)) (inside σ behind ts) =
      .ok (e.renumber σ, inside σ behind r)
  parts : ∀ {base ts es r}, readParts n base ts = .ok (es, r) →
    readParts m (base.map (renumber σ)) (inside σ behind ts) =
      .ok (renumberList σ es, inside σ behind r)

/-- Where no operand can be read, no items can. -/
theorem readItems_eq_error {ts : List Token} (h : ∀ n, ∃ k, readOperand n ts = .error k) (n : Nat) :
    ∃ k, readItems n ts = .error k := by
  cases n with
  | zero => exact ⟨_, rfl⟩
  | succ n =>
    cases n with
    | zero => exact ⟨_, rfl⟩
    | succ n =>
      obtain ⟨k, hk⟩ := h n
      exact ⟨k, by rw [readItems, Expression.read, hk]⟩

theorem readOperand_nil (n : Nat) : ∃ k, readOperand n [] = .error k := by
  cases n <;> exact ⟨_, rfl⟩

theorem readOperand_times (ts : List Token) (n : Nat) :
    ∃ k, readOperand n (.sign .times :: ts) = .error k := by
  cases n <;> exact ⟨_, rfl⟩

namespace Carries

theorem zero (m : Nat) : Carries σ behind 0 m where
  read h := by cases h
  operand h := by cases h
  further h := by cases h
  test h := by cases h
  identity h := by cases h
  items h := by cases h
  arguments h := by cases h
  branches _ _ _ _ h := by cases h
  parts h := by cases h

variable {n m : Nat} (ih : Carries σ behind n m)

include ih

theorem succ_read {least : Nat} {ts : List Token} {e : Expression} {r : List Token}
    (h : Expression.read (n + 1) least ts = .ok (e, r)) :
    Expression.read (m + 1) least (inside σ behind ts) =
      .ok (e.renumber σ, inside σ behind r) := by
  rw [Expression.read] at h ⊢
  split at h
  · cases h
  · next a rest ha =>
    rw [ih.operand ha]
    exact ih.further h

theorem succ_items {ts : List Token} {es : List Expression} {r : List Token}
    (h : readItems (n + 1) ts = .ok (es, r)) :
    readItems (m + 1) (inside σ behind ts) = .ok (renumberList σ es, inside σ behind r) := by
  rw [readItems] at h ⊢
  split at h
  · cases h
  · next a rest ha =>
    rw [ih.read ha]
    dsimp only [inside_cons, Token.renumber]
    split at h
    · cases h
    · next items rest hitems =>
      cases h
      rw [ih.items hitems]
      rfl
  · next a rest ha =>
    cases h
    rw [ih.read ha]
    rfl
  · cases h

theorem succ_identity {a : Expression} {ts : List Token} {e : Expression} {r : List Token}
    (h : readIdentity (n + 1) a ts = .ok (e, r)) :
    readIdentity (m + 1) (a.renumber σ) (inside σ behind ts) =
      .ok (e.renumber σ, inside σ behind r) := by
  rw [readIdentity] at h ⊢
  split at h
  · cases h
  · next negated rest hwords =>
    rw [readIdentityWords_inside hwords]
    dsimp only
    split at h
    · cases h
    · next b rest hb =>
      cases h
      rw [ih.read hb]
      dsimp only
      rw [identity_renumber]

theorem succ_branches (base : Option Expression) {ts : List Token} {e : Expression}
    {r : List Token} (h : readBranches (n + 1) base ts = .ok (e, r)) :
    readBranches (m + 1) (base.map (renumber σ)) (inside σ behind ts) =
      .ok (e.renumber σ, inside σ behind r) := by
  rw [readBranches] at h ⊢
  split at h
  · cases h
  · next parts rest hparts =>
    cases h
    rw [ih.parts hparts]
    rfl

theorem succ_parts {base : Option Expression} {ts : List Token} {es : List Expression}
    {r : List Token} (h : readParts (n + 1) base ts = .ok (es, r)) :
    readParts (m + 1) (base.map (renumber σ)) (inside σ behind ts) =
      .ok (renumberList σ es, inside σ behind r) := by
  rw [readParts] at h ⊢
  split at h
  · cases h
  · next a w rest ha =>
    rw [ih.read ha]
    dsimp only [inside_cons, Token.renumber] at h ⊢
    split at h
    · cases h
    · next b w rest hb =>
      rw [ih.read hb]
      dsimp only [inside_cons, Token.renumber]
      split at h
      · cases h
      · next parts rest hparts =>
        cases h
        rw [ih.parts hparts]
        cases base <;> rfl
    · next b w rest hb =>
      rw [ih.read hb]
      dsimp only [inside_cons, Token.renumber]
      split at h
      · cases h
      · next c w rest hc =>
        cases h
        rw [ih.read hc]
        cases base <;> rfl
      · cases h
    · next b w rest hb =>
      cases h
      rw [ih.read hb]
      cases base <;> rfl
    · cases h
  · cases h

end Carries

end FilterQuery.Search.Expression
