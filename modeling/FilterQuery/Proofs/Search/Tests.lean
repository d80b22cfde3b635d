import FilterQuery.Proofs.Search.Grammar
import FilterQuery.Proofs.Search.Nesting

namespace FilterQuery.Search.Expression.Carries

/-!
# Tests and operations inside of other tokens

The steps of the readers of tests, of arguments and of what stands behind an expression.

* `succ_test` — bounds, lists and patterns;
* `succ_arguments` — the arguments of a function;
* `succ_further` — operations and tests behind an expression.
-/

variable {σ : Nat → Nat} {behind : List Token} {n m : Nat} (ih : Carries σ behind n m)

include ih

theorem succ_bounds {a : Expression} {w : String} {ts : List Token} {e : Expression}
    {r : List Token} (h : readTest (n + 1) a (.keyword .between w :: ts) = .ok (e, r)) :
    readTest (m + 1) (a.renumber σ) (.keyword .between w :: inside σ behind ts) =
      .ok (e.renumber σ, inside σ behind r) := by
  rw [readTest] at h ⊢
  split at h
  · cases h
  · next low w rest hlow =>
    rw [ih.read hlow]
    dsimp only [inside_cons, Token.renumber]
    split at h
    · cases h
    · next high rest hhigh =>
      cases h
      rw [ih.read hhigh]
      rfl
  · split at h <;> cases h

theorem succ_among {a : Expression} {w : String} {ts : List Token} {e : Expression}
    {r : List Token} (h : readTest (n + 1) a (.keyword .among w :: ts) = .ok (e, r)) :
    readTest (m + 1) (a.renumber σ) (.keyword .among w :: inside σ behind ts) =
      .ok (e.renumber σ, inside σ behind r) := by
  cases ts with
  | nil => cases h
  | cons t ts =>
    rw [inside_cons]
    by_cases hopening : t = .opening
    · subst hopening
      cases ts with
      | nil =>
        obtain ⟨k, hk⟩ := readItems_eq_error readOperand_nil n
        exact absurd h (by simp [readTest, hk])
      | cons t ts =>
        by_cases hclosing : t = .closing
        · subst hclosing
          cases h
          rfl
        have hinside : t.renumber σ ≠ .closing := renumber_ne hclosing (by simp)
        rw [Grammar.readTest_among w hclosing] at h
        rw [inside_cons]
        refine (Grammar.readTest_among w hinside).trans ?_
        rw [← inside_cons]
        split at h
        · cases h
        · next items rest hread =>
          cases h
          rw [ih.items hread]
          rfl
    · -- the name of a table
      have hinside : t.renumber σ ≠ .opening := renumber_ne hopening (by simp)
      rw [Grammar.readTest_amongRows w hopening] at h
      rw [Grammar.readTest_amongRows w hinside, Token.partName?_renumber]
      cases ht : t.partName? with
      | none =>
        rw [ht] at h
        cases h
      | some table =>
        rw [ht] at h
        cases h
        rfl

theorem succ_pattern {a : Expression} {k : Keyword} {w : String} (op : Operation)
    {ts : List Token} {e : Expression} {r : List Token}
    (hk : Operation.ofPatternKeyword? k = some op)
    (h : readTest (n + 1) a (.keyword k w :: ts) = .ok (e, r)) :
    readTest (m + 1) (a.renumber σ) (.keyword k w :: inside σ behind ts) =
      .ok (e.renumber σ, inside σ behind r) := by
  rw [Grammar.readTest_pattern hk] at h
  split at h
  · cases h
  · next p w rest hp =>
    rw [Grammar.readTest_pattern hk, ih.read hp]
    dsimp only [inside_cons, Token.renumber]
    split at h
    · cases h
    · next c rest hc =>
      cases h
      rw [ih.read hc]
      rfl
  · next p rest hescape hp =>
    -- no escape character stands behind the pattern
    cases h
    refine Grammar.readTest_plain hk (ih.read hp) (fun v us heq => ?_) w
    obtain ⟨vs, rfl⟩ := eq_cons_of_inside_eq_cons heq (by simp) (by simp)
    exact hescape v vs rfl

theorem succ_test {a : Expression} {ts : List Token} {e : Expression} {r : List Token}
    (h : readTest (n + 1) a ts = .ok (e, r)) :
    readTest (m + 1) (a.renumber σ) (inside σ behind ts) =
      .ok (e.renumber σ, inside σ behind r) := by
  cases ts with
  | nil => cases h
  | cons t ts =>
    cases t with
    | keyword k w =>
      cases k with
      | between => exact ih.succ_bounds h
      | among => exact ih.succ_among h
      | like => exact ih.succ_pattern .like rfl h
      | glob => exact ih.succ_pattern .glob rfl h
      | regexp => exact ih.succ_pattern .regexp rfl h
      | matching => exact ih.succ_pattern .matching rfl h
      | _ => cases h
    | _ => cases h

theorem succ_arguments {f : String} {ts : List Token} {e : Expression} {r : List Token}
    (h : readArguments (n + 1) f ts = .ok (e, r)) :
    readArguments (m + 1) f (inside σ behind ts) = .ok (e.renumber σ, inside σ behind r) := by
  cases ts with
  | nil =>
    obtain ⟨k, hk⟩ := readItems_eq_error readOperand_nil n
    exact absurd h (by simp [readArguments, dropArgumentWord, hk])
  | cons t ts =>
    by_cases hclosing : t = .closing
    · subst hclosing
      cases h
      rfl
    by_cases htimes : t = .sign .times ∧ ∃ us, ts = .closing :: us
    · obtain ⟨rfl, us, rfl⟩ := htimes
      cases h
      rfl
    -- an asterisk alone is an argument list only before the parenthesis
    have hnone : ts = [] → t ≠ .sign .times := by
      rintro rfl rfl
      obtain ⟨k, hk⟩ := readItems_eq_error (readOperand_times []) n
      exact absurd h (by simp [readArguments, dropArgumentWord, hk])
    have hsigninside : t.renumber σ = .sign .times → ∀ us, inside σ behind ts ≠ .closing :: us := by
      intro heq us hus
      have ht := eq_of_renumber_eq heq (by simp)
      cases ts with
      | nil => exact hnone rfl ht
      | cons u vs =>
        have hu : u = .closing := eq_of_renumber_eq (List.cons.inj hus).1 (by simp)
        exact htimes ⟨ht, vs, by rw [hu]⟩
    rw [Grammar.readArguments_items f hclosing fun ht us hus => htimes ⟨ht, us, hus⟩] at h
    rw [inside_cons, Grammar.readArguments_items f
      (renumber_ne hclosing (by simp)) hsigninside, ← inside_cons,
      dropArgumentWord_inside (List.cons_ne_nil t ts)]
    split at h
    · cases h
    · next args rest hargs =>
      cases h
      rw [ih.items hargs]
      rfl

theorem succ_further_test {least : Nat} {a : Expression} {k : Keyword}
    (hk : k ∈ Grammar.testKeywords) {w : String} {ts : List Token} {e : Expression} {r : List Token}
    (h : readFurther (n + 1) least a (.keyword k w :: ts) = .ok (e, r)) :
    readFurther (m + 1) least (a.renumber σ) (.keyword k w :: inside σ behind ts) =
      .ok (e.renumber σ, inside σ behind r) := by
  rw [Grammar.readFurther_test hk] at h ⊢
  split at h
  · next hstop =>
    cases h
    exact if_pos hstop
  · next hstop =>
    rw [if_neg hstop]
    split at h
    · cases h
    · next b rest hb =>
      have hinside : readTest m (a.renumber σ) (.keyword k w :: inside σ behind ts) =
        .ok (b.renumber σ, inside σ behind rest) := ih.test hb
      rw [hinside]
      exact ih.further h

theorem succ_further_operation {least : Nat} {a : Expression} {t : Token} {op : Operation}
    {ts : List Token} {e : Expression} {r : List Token} (ht : Operation.ofToken? t = some op)
    (h : readFurther (n + 1) least a (t :: ts) = .ok (e, r)) :
    readFurther (m + 1) least (a.renumber σ) (inside σ behind (t :: ts)) =
      .ok (e.renumber σ, inside σ behind r) := by
  rw [Grammar.readFurther_operation ht] at h
  rw [inside_cons, Grammar.readFurther_operation ((Token.ofToken?_renumber σ t).trans ht)]
  split at h
  · next hlevel =>
    cases h
    rw [if_pos hlevel, inside_cons]
  · next hlevel =>
    rw [if_neg hlevel]
    split at h
    · cases h
    · next b rest hb =>
      rw [ih.read hb]
      dsimp only
      rw [combine_renumber]
      exact ih.further h

theorem succ_further_not {least : Nat} {a : Expression} {w : String} {ts : List Token}
    {e : Expression} {r : List Token}
    (h : readFurther (n + 1) least a (.keyword .not w :: ts) = .ok (e, r)) :
    readFurther (m + 1) least (a.renumber σ) (.keyword .not w :: inside σ behind ts) =
      .ok (e.renumber σ, inside σ behind r) := by
  -- a test of a tighter level is left to be read behind it
  by_cases hstop : (isTest (.keyword .not w) && decide (testLevel < least)) = true
  · obtain ⟨rfl, rfl⟩ := Prod.mk.inj (Except.ok.inj ((if_pos hstop).symm.trans h))
    exact if_pos hstop
  cases ts with
  | nil =>
    have hnil : readTest n a [] = unexpected [] := by cases n <;> rfl
    exact absurd ((if_neg hstop).symm.trans h) (by simp [hnil, unexpected])
  | cons t ts =>
    -- `NOT NULL` is a test by itself
    by_cases hnull : ∃ w', t = .keyword .null w'
    · obtain ⟨w', rfl⟩ := hnull
      exact (if_neg hstop).trans (ih.further ((if_neg hstop).symm.trans h))
    · have ht (w' : String) : t ≠ .keyword .null w' := fun heq => hnull ⟨w', heq⟩
      have htinside (w' : String) : t.renumber σ ≠ .keyword .null w' := by
        rintro heq
        cases t <;> cases heq
        exact ht w' rfl
      rw [Grammar.readFurther_not ht, if_neg hstop] at h
      rw [inside_cons, Grammar.readFurther_not htinside, if_neg hstop]
      split at h
      · cases h
      · next b rest hb =>
        have hinside := ih.test hb
        rw [inside_cons] at hinside
        rw [hinside]
        exact ih.further h

theorem succ_further_isNull {least : Nat} {a : Expression} {t : Token} (negated : Bool)
    {ts : List Token} {e : Expression} {r : List Token}
    (hstep : ∀ n a ts, readFurther (n + 1) least a (t :: ts) =
      if isTest t && testLevel < least then .ok (a, t :: ts)
      else readFurther n least (.isNull a negated) ts)
    (ht : t.renumber σ = t) (h : readFurther (n + 1) least a (t :: ts) = .ok (e, r)) :
    readFurther (m + 1) least (a.renumber σ) (inside σ behind (t :: ts)) =
      .ok (e.renumber σ, inside σ behind r) := by
  rw [inside_cons, ht, hstep]
  rw [hstep] at h
  split at h
  · next hstop =>
    cases h
    rw [if_pos hstop, inside_cons, ht]
  · next hstop =>
    rw [if_neg hstop]
    exact ih.further h

theorem succ_further_is {least : Nat} {a : Expression} {w : String} {ts : List Token}
    {e : Expression} {r : List Token}
    (h : readFurther (n + 1) least a (.keyword .is w :: ts) = .ok (e, r)) :
    readFurther (m + 1) least (a.renumber σ) (.keyword .is w :: inside σ behind ts) =
      .ok (e.renumber σ, inside σ behind r) := by
  rw [readFurther] at h ⊢
  split at h
  · next hstop =>
    cases h
    rw [if_pos hstop]
    rfl
  · next hstop =>
    rw [if_neg hstop]
    split at h
    · cases h
    · next b rest hb =>
      rw [ih.identity hb]
      exact ih.further h

theorem succ_further_collate {least : Nat} {a : Expression} {w : String} {ts : List Token}
    {e : Expression} {r : List Token}
    (h : readFurther (n + 1) least a (.keyword .collate w :: ts) = .ok (e, r)) :
    readFurther (m + 1) least (a.renumber σ) (.keyword .collate w :: inside σ behind ts) =
      .ok (e.renumber σ, inside σ behind r) := by
  by_cases hstop : collateLevel < least
  · obtain ⟨rfl, rfl⟩ := Prod.mk.inj (Except.ok.inj ((if_pos hstop).symm.trans h))
    exact if_pos hstop
  · refine (if_neg hstop).trans ?_
    replace h := (if_neg hstop).symm.trans h
    cases ts with
    | nil => cases h
    | cons t ts =>
      rw [inside_cons]
      dsimp only at h ⊢
      rw [Token.partName?_renumber]
      cases ht : t.partName? with
      | none => rw [ht] at h; cases h
      | some collation =>
        rw [ht] at h
        exact ih.further h

theorem succ_further {least : Nat} {a : Expression} {ts : List Token} {e : Expression}
    {r : List Token} (h : readFurther (n + 1) least a ts = .ok (e, r)) :
    readFurther (m + 1) least (a.renumber σ) (inside σ behind ts) =
      .ok (e.renumber σ, inside σ behind r) := by
  cases ts with
  | nil => cases h; rfl
  | cons t ts =>
    cases hop : Operation.ofToken? t with
    | some op => exact ih.succ_further_operation hop h
    | none =>
      cases t with
      | keyword k w =>
        cases k with
        | not => exact ih.succ_further_not h
        | is => exact ih.succ_further_is h
        | collate => exact ih.succ_further_collate h
        | isNull => exact ih.succ_further_isNull false (fun _ _ _ => rfl) rfl h
        | notNull => exact ih.succ_further_isNull true (fun _ _ _ => rfl) rfl h
        | like | glob | regexp | matching | among | between =>
          exact ih.succ_further_test (by decide) h
        | and | or => cases hop
        | _ => cases h; rfl
      | sign s =>
        cases s with
        | complement => cases h; rfl
        | _ => cases hop
      | _ => cases h; rfl

end FilterQuery.Search.Expression.Carries
