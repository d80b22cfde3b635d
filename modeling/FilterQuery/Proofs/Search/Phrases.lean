import FilterQuery.Proofs.Search.Operands

namespace FilterQuery.Search.Grammar

/-!
# Reading conditions

A condition of the grammar is read as its expression, level by level: what `NOT` may stand in
front of, what `AND` joins and what `OR` joins.

* `ReadsPhrase` — what a reader does with a phrase, whatever stands behind it;
* `Phrase.reads`, `Phrase.ofTokens_eq` — a condition of the grammar is read as its expression;
* `Phrase.unique` — some tokens are a condition in one way at most.
-/

open Expression

/-- A condition is no constant, and no membership in an empty list. -/
theorem Phrase.isZero_eq {l : Level} {ts : List Token} {e : Expression} (h : Phrase l ts e) :
    e.isZero = false := by
  induction h with
  | test _ hf =>
    cases hf with
    | @among parts _ hne _ =>
      cases parts with
      | nil => exact absurd rfl hne
      | cons p parts => rfl
    | _ => rfl
  | group _ ih | ofFactor _ ih | ofJoint _ ih => exact ih
  | _ => rfl

namespace Level

/-- The largest level of operations that may be asked for where a phrase is read. -/
def most : Level → Nat
  | .choice => Operation.or.level
  | .joint => Operation.and.level
  | .factor => testLevel

/-- The level of operations that a phrase leaves to be read behind it. -/
def following : Level → Nat
  | .choice => Operation.or.level + 1
  | .joint | .factor => Operation.and.level + 1

end Level

/-- What a reader of expressions does with a phrase, whatever stands behind it: it takes the
    phrase off the front and goes on reading there, with what nesting is left. -/
def ReadsPhrase (l : Level) (ts : List Token) (e : Expression) : Prop :=
  ∀ n least rest, least ≤ l.most → Ends l.following rest → 4 * ts.length < n →
    ∃ m, n ≤ m + 4 * ts.length ∧
      Expression.read n least (ts ++ rest) = readFurther m least e rest

namespace ReadsPhrase

variable {ts us : List Token} {a b : Expression}

/-- A phrase is read up to where it is ended. -/
theorem read_of_ends {l : Level} (h : ReadsPhrase l ts a) {n least : Nat} {rest : List Token}
    (hleast : least ≤ l.most) (hrest : Ends l.following rest) (hends : Ends least rest)
    (hn : 4 * ts.length < n) : Expression.read n least (ts ++ rest) = .ok (a, rest) := by
  obtain ⟨m, hm, hread⟩ := h n least rest hleast hrest hn
  obtain ⟨m, rfl⟩ : ∃ m', m = m' + 1 := ⟨m - 1, by omega⟩
  rw [hread, readFurther_of_ends hends]

theorem compare {t : Token} {op : Operation} (ht : Operation.ofToken? t = some op)
    (hop : op.compares = true) (ha : Operand ts a) (hb : Operand us b) :
    ReadsPhrase .factor (ts ++ t :: us) (.binary op a b) := by
  intro n least rest hleast hrest hn
  simp only [List.length_append, List.length_cons] at hn ⊢
  obtain ⟨k, rfl⟩ : ∃ k, n = k + 4 := ⟨n - 4, by omega⟩
  -- signs of comparisons neither open a call nor go on with a name
  have hname : t ≠ .opening ∧ t ≠ .point := by constructor <;> (rintro rfl; cases ht)
  have hlevel : testLevel ≤ op.level := by cases op <;> first | decide | cases hop
  have hcombine : combine op a b = .binary op a b := by cases op <;> first | rfl | cases hop
  have hreadB : Expression.read (k + 2) (op.level + 1) (us ++ rest) = .ok (b, rest) :=
    hb.reads.read_of_ends (by omega)
      (hrest.mono (Nat.le_succ_of_le (Nat.le_trans (by decide) hlevel)))
  refine ⟨k + 2, by omega, ?_⟩
  rw [List.append_assoc, List.cons_append,
    ha.reads.read_eq (by omega) (endsName_cons hname.1 hname.2 _),
    readFurther_operation ht,
    if_neg (Nat.not_lt.mpr (Nat.le_trans hleast hlevel)), hreadB]
  dsimp only
  rw [hcombine]

/-- `IS` with `NULL` behind its words is a test for absence. -/
theorem identity (words : List Token) {negated : Bool} {null : String} (is : String)
    (ha : Operand ts a)
    (hwords : ∀ rest, readIdentityWords (words ++ .keyword .null null :: rest) =
      .ok (negated, .keyword .null null :: rest)) :
    ReadsPhrase .factor (ts ++ .keyword .is is :: (words ++ [.keyword .null null]))
      (.isNull a negated) := by
  intro n least rest hleast hrest hn
  simp only [List.length_append, List.length_cons, List.length_nil] at hn ⊢
  obtain ⟨k, rfl⟩ : ∃ k, n = k + 6 := ⟨n - 6, by omega⟩
  have hidentity : readIdentity (k + 4) a (words ++ .keyword .null null :: rest) =
      .ok (.isNull a negated, rest) :=
    readIdentity_null (hwords rest) (hrest.mono (by decide)) a
  refine ⟨k + 4, by omega, ?_⟩
  simp only [List.append_assoc, List.cons_append, List.nil_append]
  rw [ha.reads.read_eq (by omega) (endsName_cons (by simp) (by simp) _), readFurther_is hleast,
    hidentity]

theorem test {f : Expression → Expression} (ha : Operand ts a) (hf : Test us f) :
    ReadsPhrase .factor (ts ++ us) (f a) := by
  intro n least rest hleast hrest hn
  simp only [List.length_append] at hn ⊢
  have hts := ha.length_pos
  obtain ⟨k, rfl⟩ : ∃ k, n = k + 2 := ⟨n - 2, by omega⟩
  have hname : EndsName (us ++ rest) := by
    cases hf <;> exact endsName_cons (by simp) (by simp) _
  refine ⟨k, by omega, ?_⟩
  rw [List.append_assoc, ha.reads.read_eq (by omega) hname,
    hf.readFurther_eq hleast (by omega) hrest]

theorem testNot {f : Expression → Expression} (not : String) (ha : Operand ts a)
    (hf : Test us f) :
    ReadsPhrase .factor (ts ++ .keyword .not not :: us) (.modified .not (f a)) := by
  intro n least rest hleast hrest hn
  simp only [List.length_append, List.length_cons] at hn ⊢
  obtain ⟨k, rfl⟩ : ∃ k, n = k + 2 := ⟨n - 2, by omega⟩
  refine ⟨k, by omega, ?_⟩
  rw [List.append_assoc, List.cons_append,
    ha.reads.read_eq (by omega) (endsName_cons (by simp) (by simp) _),
    hf.readFurther_not_eq hleast (by omega) hrest]

theorem group (h : ReadsPhrase .choice ts a) :
    ReadsPhrase .factor (.opening :: (ts ++ [.closing])) a := by
  intro n least rest _ _ hn
  simp only [List.length_append, List.length_cons, List.length_nil] at hn ⊢
  obtain ⟨k, rfl⟩ : ∃ k, n = k + 3 := ⟨n - 3, by omega⟩
  have hread : Expression.read k 0 (ts ++ .closing :: rest) = .ok (a, .closing :: rest) :=
    h.read_of_ends (Nat.zero_le _) (ends_cons rfl (Nat.zero_le _) rest)
      (ends_cons rfl (Nat.le_refl 0) rest) (by omega)
  have hitems : readItems (k + 1) (ts ++ .closing :: rest) = .ok ([a], rest) := by
    rw [readItems, hread]
  refine ⟨k + 2, by omega, ?_⟩
  simp only [List.cons_append, List.append_assoc, List.nil_append]
  rw [Expression.read, readOperand, hitems]

theorem not (not : String) (h : ReadsPhrase .factor ts a) :
    ReadsPhrase .factor (.keyword .not not :: ts) (.modified .not a) := by
  intro n least rest _ hrest hn
  simp only [List.length_cons] at hn ⊢
  obtain ⟨k, rfl⟩ : ∃ k, n = k + 2 := ⟨n - 2, by omega⟩
  have hread : Expression.read k testLevel (ts ++ rest) = .ok (a, rest) :=
    h.read_of_ends (Nat.le_refl _) hrest (hrest.mono (by decide)) (by omega)
  refine ⟨k + 1, by omega, ?_⟩
  rw [List.cons_append, Expression.read, readOperand, hread]

/-- A phrase that is joined less loosely may stand where a loose one may. -/
theorem loosen {l k : Level} (h : ReadsPhrase l ts a) (hmost : k.most ≤ l.most)
    (hfollowing : k.following ≤ l.following) : ReadsPhrase k ts a := by
  intro n least rest hleast hrest hn
  exact h n least rest (Nat.le_trans hleast hmost) (hrest.mono hfollowing) hn

/-- What `AND` and `OR` join is read from the left. -/
theorem join {l r : Level} {t : Token} {op : Operation} (ht : Operation.ofToken? t = some op)
    (hmost : l.most = op.level) (hnext : op.level + 1 ≤ r.most)
    (hends : endLevel? t = some l.following) (hl : l.following = op.level + 1)
    (hr : l.following ≤ r.following) (hcombine : combine op a b = .binary op a b)
    (ha : ReadsPhrase l ts a) (hb : ReadsPhrase r us b) :
    ReadsPhrase l (ts ++ t :: us) (.binary op a b) := by
  intro n least rest hleast hrest hn
  simp only [List.length_append, List.length_cons] at hn ⊢
  obtain ⟨m, hm, hreadA⟩ := ha n least (t :: (us ++ rest)) hleast
    (ends_cons hends (Nat.le_refl _) _) (by omega)
  obtain ⟨k, rfl⟩ : ∃ k, m = k + 1 := ⟨m - 1, by omega⟩
  have hreadB : Expression.read k (op.level + 1) (us ++ rest) = .ok (b, rest) :=
    hb.read_of_ends hnext (hrest.mono hr) (hl ▸ hrest) (by omega)
  have hstep : readFurther (k + 1) least a (t :: (us ++ rest)) =
      readFurther k least (.binary op a b) rest := by
    rw [readFurther_operation ht, if_neg (Nat.not_lt.mpr (hmost ▸ hleast)), hreadB]
    dsimp only
    rw [hcombine]
  refine ⟨k, by omega, ?_⟩
  rw [List.append_assoc, List.cons_append, hreadA, hstep]

end ReadsPhrase

/-- **Completeness of reading.** Where a condition of the grammar stands it is read as its
    expression, and reading goes on behind it. -/
theorem Phrase.reads {l : Level} {ts : List Token} {e : Expression} (h : Phrase l ts e) :
    ReadsPhrase l ts e := by
  induction h with
  | compare ht hop ha hb => exact .compare ht hop ha hb
  | isNull is _ ha => exact .identity [] is ha fun _ => rfl
  | isNotNull is not _ ha => exact .identity [.keyword .not not] is ha fun _ => rfl
  | test ha hf => exact .test ha hf
  | testNot not ha hf => exact .testNot not ha hf
  | group _ ih => exact ih.group
  | not not _ ih => exact ih.not not
  | ofFactor _ ih => exact ih.loosen (by decide) (by decide)
  | ofJoint _ ih => exact ih.loosen (by decide) (by decide)
  | @and ts us a b and ha hb iha ihb =>
    -- neither condition is a constant that would swallow the other
    have hcombine : combine .and a b = .binary .and a b := by
      rw [combine, conjunction, ha.isZero_eq, hb.isZero_eq]
      rfl
    exact iha.join rfl rfl (by decide) rfl rfl (by decide) hcombine ihb
  | or or _ _ iha ihb => exact iha.join rfl rfl (by decide) rfl rfl (by decide) rfl ihb

/-- A condition of the grammar is read as its expression, and nothing is left. -/
theorem Phrase.ofTokens_eq {ts : List Token} {e : Expression} (h : Phrase .choice ts e) :
    ofTokens ts = .ok (e, []) := by
  have hread : Expression.read (4 * ts.length + 4) 0 (ts ++ []) = .ok (e, []) :=
    h.reads.read_of_ends (Nat.zero_le _) (ends_nil _) (ends_nil 0) (by omega)
  rwa [List.append_nil] at hread

/-- The grammar is unambiguous: some tokens are one condition at most. -/
theorem Phrase.unique {ts : List Token} {e f : Expression} (he : Phrase .choice ts e)
    (hf : Phrase .choice ts f) : e = f :=
  (Prod.mk.inj (Except.ok.inj (he.ofTokens_eq.symm.trans hf.ofTokens_eq))).1

end FilterQuery.Search.Grammar
