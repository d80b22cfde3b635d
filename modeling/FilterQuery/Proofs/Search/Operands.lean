import FilterQuery.Proofs.Search.Grammar

namespace FilterQuery.Search.Grammar

/-!
# Reading operands and tests

An operand of the grammar is taken off the front of the tokens as its expression, and so is a
test behind its operand, whatever stands behind them.

* `ReadsOperand`, `Operand.reads` — operands are read as their expressions;
* `Test.reads` — so are tests, with the operand in front of them;
* `Test.readFurther_eq`, `Test.readFurther_not_eq` — tests behind an operand, also negated ones.
-/

open Expression

/-! ### Reading operands -/

theorem readOperand_name (n : Nat) (s : String) {rest : List Token} (h : EndsName rest) :
    readOperand (n + 1) (.name s :: rest) = .ok (.name [s] false false, rest) := by
  cases rest with
  | nil => rfl
  | cons t rest =>
    obtain ⟨hopening, hpoint⟩ := h t rfl
    cases t <;> first | exact absurd rfl hopening | exact absurd rfl hpoint | rfl

/-- An operand begins with none of the signs and words that may begin arguments. -/
theorem Operand.head {ts : List Token} {a : Expression} (h : Operand ts a) :
    ∃ t us, ts = t :: us ∧
      (t = .opening ∨ (∃ s, t = .name s) ∨ (∃ n, t = .integer n) ∨
        (∃ n, t = .placeholder (some n)) ∨ ∃ w, t = .keyword .cast w) := by
  cases h <;> exact ⟨_, _, rfl, by simp⟩

theorem Operand.length_pos {ts : List Token} {a : Expression} (h : Operand ts a) :
    0 < ts.length := by
  obtain ⟨t, us, rfl, _⟩ := h.head
  simp

/-- What a reader of operands does with an operand, whatever stands behind it. -/
def ReadsOperand (ts : List Token) (a : Expression) : Prop :=
  ∀ n rest, 4 * ts.length ≤ n → EndsName rest → readOperand n (ts ++ rest) = .ok (a, rest)

theorem ReadsOperand.read_eq {ts : List Token} {a : Expression} (h : ReadsOperand ts a)
    {n : Nat} (hn : 4 * ts.length ≤ n) {rest : List Token} (hrest : EndsName rest) (least : Nat) :
    read (n + 1) least (ts ++ rest) = readFurther n least a rest := by
  rw [Expression.read, h n rest hn hrest]

theorem ReadsOperand.read_of_ends {ts : List Token} {a : Expression} (h : ReadsOperand ts a)
    {n least : Nat} (hn : 4 * ts.length ≤ n) {rest : List Token} (hrest : Ends least rest) :
    read (n + 2) least (ts ++ rest) = .ok (a, rest) := by
  rw [h.read_eq (Nat.le_succ_of_le hn) hrest.endsName, readFurther_of_ends hrest]

theorem readItems_listed {parts : List (List Token × Expression)} (hne : parts ≠ [])
    (h : ∀ p ∈ parts, ReadsOperand p.1 p.2) (rest : List Token) :
    ∀ n, 4 * (listed (parts.map Prod.fst)).length ≤ n →
      readItems (n + 3) (listed (parts.map Prod.fst) ++ .closing :: rest) =
        .ok (parts.map Prod.snd, rest) := by
  -- by induction on the parts, each of which takes one step and leaves its comma
  induction parts with
  | nil => exact absurd rfl hne
  | cons p parts ih =>
    intro n hn
    rw [List.forall_mem_cons] at h
    obtain ⟨hp, hparts⟩ := h
    cases parts with
    | nil =>
      simp only [List.map_cons, List.map_nil, listed] at hn ⊢
      rw [readItems, hp.read_of_ends hn (ends_cons rfl (Nat.le_refl 0) rest)]
    | cons q parts =>
      simp only [List.map_cons, listed, List.length_append, List.length_cons] at hn ⊢
      rw [readItems, List.append_assoc, List.cons_append,
        hp.read_of_ends (by omega) (ends_cons rfl (Nat.le_refl 0) _)]
      -- the parts behind the comma are read with one step less
      obtain ⟨m, rfl⟩ : ∃ m, n = m + 1 := ⟨n - 1, by omega⟩
      have hrest : readItems (m + 1 + 2) (listed ((q :: parts).map Prod.fst) ++ .closing :: rest) =
          .ok ((q :: parts).map Prod.snd, rest) :=
        ih (List.cons_ne_nil q parts) hparts m (by simp only [List.map_cons]; omega)
      rw [List.map_cons, List.map_cons] at hrest
      dsimp only
      rw [hrest]

/-- A list begins like its first operand. -/
theorem listed_head {parts : List (List Token × Expression)} (hne : parts ≠ [])
    (h : ∀ p ∈ parts, Operand p.1 p.2) :
    ∃ t us, listed (parts.map Prod.fst) = t :: us ∧
      (t = .opening ∨ (∃ s, t = .name s) ∨ (∃ n, t = .integer n) ∨
        (∃ n, t = .placeholder (some n)) ∨ ∃ w, t = .keyword .cast w) := by
  cases parts with
  | nil => exact absurd rfl hne
  | cons p parts =>
    obtain ⟨t, us, hp, ht⟩ := (h p List.mem_cons_self).head
    cases parts with
    | nil => exact ⟨t, us, by rw [List.map_cons, List.map_nil, listed, hp], ht⟩
    | cons q parts =>
      exact ⟨t, us ++ .comma :: listed (q.1 :: parts.map Prod.fst),
        by rw [List.map_cons, List.map_cons, listed, hp, List.cons_append], ht⟩

theorem readArguments_listed {parts : List (List Token × Expression)} (hne : parts ≠ [])
    (h : ∀ p ∈ parts, Operand p.1 p.2) (hreads : ∀ p ∈ parts, ReadsOperand p.1 p.2)
    {n : Nat} (hn : 4 * (listed (parts.map Prod.fst)).length ≤ n) (function : String)
    (rest : List Token) :
    readArguments (n + 4) function (listed (parts.map Prod.fst) ++ .closing :: rest) =
      .ok (.call function (parts.map Prod.snd), rest) := by
  have hitems := readItems_listed hne hreads rest n hn
  obtain ⟨t, us, hlisted, ht⟩ := listed_head hne h
  rw [hlisted, List.cons_append] at hitems ⊢
  -- neither an empty list nor a word stands before the first argument
  obtain rfl | ⟨s, rfl⟩ | ⟨k, rfl⟩ | ⟨k, rfl⟩ | ⟨w, rfl⟩ := ht
  all_goals
    rw [readArguments_items function (by simp) (by simp)]
    dsimp only [dropArgumentWord]
    rw [hitems]

/-- Every operand is read as its expression. -/
theorem Operand.reads {ts : List Token} {a : Expression} (h : Operand ts a) :
    ReadsOperand ts a := by
  induction h with
  | name s =>
    intro n rest hn hrest
    obtain ⟨m, rfl⟩ : ∃ m, n = m + 1 := ⟨n - 1, by simp at hn; omega⟩
    exact readOperand_name m s hrest
  | integer k =>
    intro n rest hn _
    obtain ⟨m, rfl⟩ : ∃ m, n = m + 1 := ⟨n - 1, by simp at hn; omega⟩
    rfl
  | placeholder k =>
    intro n rest hn _
    obtain ⟨m, rfl⟩ : ∃ m, n = m + 1 := ⟨n - 1, by simp at hn; omega⟩
    rfl
  | @call function parts hne hparts ih =>
    intro n rest hn _
    simp only [List.length_cons, List.length_append] at hn
    obtain ⟨m, rfl⟩ : ∃ m, n = m + 5 := ⟨n - 5, by omega⟩
    show readArguments (m + 4) function ((listed (parts.map Prod.fst) ++ [.closing]) ++ rest) = _
    rw [List.append_assoc]
    exact readArguments_listed hne hparts ih (by omega) function rest
  | @cast ts a cast as type _ ih =>
    intro n rest hn _
    simp only [List.length_cons, List.length_append] at hn
    obtain ⟨m, rfl⟩ : ∃ m, n = m + 3 := ⟨n - 3, by omega⟩
    have hread : Expression.read (m + 2) 0
          (ts ++ .keyword .asType as :: .name type :: .closing :: rest) =
        .ok (a, .keyword .asType as :: .name type :: .closing :: rest) :=
      ih.read_of_ends (by omega) (ends_cons rfl (Nat.le_refl 0) _)
    simp only [List.cons_append, List.append_assoc, List.nil_append]
    rw [readOperand, hread]
    rfl
  | @group ts a _ ih =>
    intro n rest hn _
    simp only [List.length_cons, List.length_append] at hn
    obtain ⟨m, rfl⟩ : ∃ m, n = m + 4 := ⟨n - 4, by omega⟩
    have hread : Expression.read (m + 2) 0 (ts ++ .closing :: rest) = .ok (a, .closing :: rest) :=
      ih.read_of_ends (by omega) (ends_cons rfl (Nat.le_refl 0) _)
    have hitems : readItems (m + 3) (ts ++ .closing :: rest) = .ok ([a], rest) := by
      rw [readItems, hread]
    simp only [List.cons_append, List.append_assoc, List.nil_append]
    rw [readOperand, hitems]

/-! ### Reading tests -/

/-- A pattern that ends is no pattern with an escape character. -/
theorem readTest_like {n least : Nat} {a p : Expression} {ts rest : List Token}
    (hread : Expression.read n (testLevel + 1) ts = .ok (p, rest)) (hrest : Ends least rest)
    (like : String) :
    readTest (n + 1) a (.keyword .like like :: ts) = .ok (.binary .like a p, rest) := by
  have hescape (w : String) (us : List Token) : rest ≠ .keyword .escape w :: us := by
    rintro rfl
    obtain ⟨k, hk, _⟩ := hrest _ rfl
    cases hk
  exact readTest_plain rfl hread hescape like

/-- A test begins with its keyword. -/
theorem Test.head {us : List Token} {f : Expression → Expression} (h : Test us f) :
    ∃ k w ts, us = .keyword k w :: ts ∧ k ∈ testKeywords := by
  cases h <;> exact ⟨_, _, _, rfl, by decide⟩

/-- Every part behind an operand is read as its test. -/
theorem Test.reads {us : List Token} {f : Expression → Expression} (h : Test us f) {n : Nat}
    (hn : 4 * us.length ≤ n) (a : Expression) {rest : List Token} (hrest : Ends notLevel rest) :
    readTest n a (us ++ rest) = .ok (f a, rest) := by
  cases h with
  | @like ts p like hp =>
    simp only [List.length_cons] at hn
    obtain ⟨m, rfl⟩ : ∃ m, n = m + 3 := ⟨n - 3, by omega⟩
    exact readTest_like (hp.reads.read_of_ends (by omega) (hrest.mono (by decide))) hrest like
  | @among parts among hne hparts =>
    simp only [List.length_cons, List.length_append] at hn
    obtain ⟨m, rfl⟩ : ∃ m, n = m + 4 := ⟨n - 4, by omega⟩
    have hitems := readItems_listed hne (fun p hp => (hparts p hp).reads) rest m (by omega)
    obtain ⟨t, us, hlisted, ht⟩ := listed_head hne hparts
    simp only [List.cons_append, List.append_assoc, List.nil_append, hlisted] at hitems ⊢
    have hnonempty : t ≠ .closing := by
      obtain rfl | ⟨s, rfl⟩ | ⟨k, rfl⟩ | ⟨k, rfl⟩ | ⟨w, rfl⟩ := ht <;> simp
    rw [readTest_among among hnonempty, hitems]
  | @between ts us low high between and hlow hhigh =>
    simp only [List.length_cons, List.length_append] at hn
    obtain ⟨m, rfl⟩ : ∃ m, n = m + 3 := ⟨n - 3, by omega⟩
    have hreadLow : Expression.read (m + 2) notLevel (ts ++ .keyword .and and :: (us ++ rest)) =
        .ok (low, .keyword .and and :: (us ++ rest)) :=
      hlow.reads.read_of_ends (by omega) (ends_cons rfl (by decide) _)
    have hreadHigh : Expression.read (m + 2) (testLevel + 1) (us ++ rest) = .ok (high, rest) :=
      hhigh.reads.read_of_ends (by omega) (hrest.mono (by decide))
    simp only [List.cons_append, List.append_assoc]
    rw [readTest, hreadLow]
    dsimp only
    rw [hreadHigh]

section Further

variable {n least : Nat} {a : Expression} {rest : List Token}

/-- `NULL` behind `IS` makes a test for absence. -/
theorem readIdentity_null {ts : List Token} {negated : Bool} {null : String}
    (hwords : readIdentityWords ts = .ok (negated, .keyword .null null :: rest))
    (hrest : Ends (testLevel + 1) rest) (a : Expression) :
    readIdentity (n + 3) a ts = .ok (.isNull a negated, rest) := by
  have hnull : Expression.read (n + 2) (testLevel + 1) (.keyword .null null :: rest) =
      .ok (.constant .null, rest) := by
    rw [Expression.read, readOperand]
    exact readFurther_of_ends hrest n (.constant .null)
  rw [readIdentity, hwords]
  dsimp only
  rw [hnull]
  rfl

/-- Behind an operand a test is read. -/
theorem Test.readFurther_eq {us : List Token} {f : Expression → Expression} (h : Test us f)
    (hleast : least ≤ testLevel) (hn : 4 * us.length ≤ n) (hrest : Ends notLevel rest) :
    readFurther (n + 1) least a (us ++ rest) = readFurther n least (f a) rest := by
  have hreads := h.reads hn a hrest
  obtain ⟨k, w, ts, rfl, hk⟩ := h.head
  rw [List.cons_append, readFurther_test hk, if_neg (by simp [Nat.not_lt.mpr hleast]),
    ← List.cons_append, hreads]

/-- Behind an operand and `NOT` a test is read. -/
theorem Test.readFurther_not_eq {us : List Token} {f : Expression → Expression} (h : Test us f)
    (hleast : least ≤ testLevel) (hn : 4 * us.length ≤ n) (hrest : Ends notLevel rest)
    (not : String) :
    readFurther (n + 1) least a (.keyword .not not :: (us ++ rest)) =
      readFurther n least (.modified .not (f a)) rest := by
  have hreads := h.reads hn a hrest
  obtain ⟨k, w, ts, rfl, hk⟩ := h.head
  have hnull (v : String) : Token.keyword k w ≠ .keyword .null v := by
    intro heq
    obtain rfl := (Token.keyword.inj heq).1
    exact absurd hk (by decide)
  rw [List.cons_append, readFurther_not hnull, if_neg (by simp [Nat.not_lt.mpr hleast]),
    ← List.cons_append, hreads]

end Further

end FilterQuery.Search.Grammar
