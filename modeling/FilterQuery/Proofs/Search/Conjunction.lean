import FilterQuery.Proofs.Search.Embedding
import FilterQuery.Proofs.Search.Numbering
import FilterQuery.Proofs.Search.Operands
import FilterQuery.Search.Evaluation

namespace FilterQuery.Search

/-!
# Conditions joined in a text

Several conditions in parentheses with `AND` between them are read as their conjunction.
The placeholders of each have numbers of their own, and so each reads its own values.

* `Expression.cell_renumber` — renumbered placeholders read the values of other numbers;
* `Token.numbered_eq_map`, `placeholderCell_shifted` — the numbers of a condition among
  others, and the values that it finds there;
* `ofTokens_groups` — conditions in parentheses are read as a conjunction.
-/

/-! ### Values under other numbers -/

namespace Expression

variable {σ : Nat → Nat} {values slice : List Cell}

/-- The value of the placeholder with a number. -/
def placeholderCell (values : List Cell) (n : Nat) : Cell :=
  if n = 0 then .null else values.getD (n - 1) .null

mutual

/-- The collation does not depend on placeholders. -/
theorem collation?_renumber : ∀ e : Expression, (e.renumber σ).collation? = e.collation?
  | .constant _ | .placeholder _ | .parameter _ | .moment | .name _ _ _ | .raise => rfl
  | .modified _ a | .truthTest a _ _ | .isNull a _ | .amongRows a _ | .cast a _ => by
    rw [renumber, collation?, collation?, collation?_renumber a]
  | .collate _ _ => rfl
  | .binary _ a b => by
    rw [renumber, collation?, collation?, collation?_renumber a, collation?_renumber b]
  | .escaped a b c | .between a b c => by
    rw [renumber, collation?, collation?, collation?_renumber a, collation?_renumber b,
      collation?_renumber c]
  | .among a items => by
    rw [renumber, collation?, collation?, collation?_renumber a, collationOf?_renumber items]
  | .call _ items | .choice items | .row items => by
    rw [renumber, collation?, collation?, collationOf?_renumber items]

theorem collationOf?_renumber : ∀ es : List Expression,
    collationOf? (renumberList σ es) = collationOf? es
  | [] => rfl
  | e :: es => by
    rw [renumberList, collationOf?, collationOf?, collation?_renumber e, collationOf?_renumber es]

end

/-- The preference does not depend on placeholders. -/
theorem affinity_renumber (r : Row) : ∀ e : Expression, (e.renumber σ).affinity r = e.affinity r
  | .collate a _ => by rw [renumber, affinity, affinity, affinity_renumber r a]
  | .constant _ | .placeholder _ | .parameter _ | .moment | .name _ _ _ | .raise | .modified _ _
  | .truthTest _ _ _ | .isNull _ _ | .amongRows _ _ | .cast _ _ | .binary _ _ _ | .escaped _ _ _
  | .between _ _ _ | .among _ _ | .call _ _ | .choice _ | .row _ => rfl

theorem cell_binary_congr {r : Row} {a b a' b' : Expression} (op : Operation)
    (ha : a'.cell r values = a.cell r slice) (hb : b'.cell r values = b.cell r slice)
    (hcollation : (a'.collation? <|> b'.collation?) = (a.collation? <|> b.collation?))
    (haffinity : a'.affinity r = a.affinity r ∧ b'.affinity r = b.affinity r) :
    (Expression.binary op a' b').cell r values = (Expression.binary op a b).cell r slice := by
  cases op <;> simp only [cell, ha, hb, hcollation, haffinity.1, haffinity.2]

mutual

/-- Where an expression with renumbered placeholders finds the same values, it has the same
    value. -/
theorem cell_renumber (h : ∀ n, placeholderCell values (σ n) = placeholderCell slice n) (r : Row) :
    ∀ e : Expression, (e.renumber σ).cell r values = e.cell r slice
  | .placeholder n => h n
  | .constant _ | .parameter _ | .moment | .name _ _ _ | .amongRows _ _ | .row _ | .raise => rfl
  | .modified _ a | .truthTest a _ _ | .isNull a _ | .cast a _ | .collate a _ => by
    rw [renumber, cell, cell, cell_renumber h r a]
  | .binary op a b =>
    cell_binary_congr op (cell_renumber h r a) (cell_renumber h r b)
      (by rw [collation?_renumber, collation?_renumber])
      ⟨affinity_renumber r a, affinity_renumber r b⟩
  | .escaped a p e => by
    rw [renumber, cell, cell, cell_renumber h r a, cell_renumber h r p, cell_renumber h r e]
  | .between a low high => by
    rw [renumber, cell, cell, cell_renumber h r a, cell_renumber h r low, cell_renumber h r high]
    simp only [collation?_renumber, affinity_renumber]
  | .among a items => by
    rw [renumber, cell, cell, cell_renumber h r a, cells_renumber h r items]
    simp only [collation?_renumber, affinity_renumber]
  | .call _ items | .choice items => by rw [renumber, cell, cell, cells_renumber h r items]

theorem cells_renumber (h : ∀ n, placeholderCell values (σ n) = placeholderCell slice n)
    (r : Row) : ∀ es : List Expression, cells r values (renumberList σ es) = cells r slice es
  | [] => rfl
  | e :: es => by rw [renumberList, cells, cells, cell_renumber h r e, cells_renumber h r es]

end

theorem truth_renumber (h : ∀ n, placeholderCell values (σ n) = placeholderCell slice n) (r : Row)
    (e : Expression) : (e.renumber σ).truth r values = e.truth r slice :=
  congrArg Cell.truth (cell_renumber h r e)

/-- What is false as it stands is so on every row. -/
theorem truth_of_isZero {e : Expression} (h : e.isZero = true) (r : Row) (values : List Cell) :
    e.truth r values = .no := by
  cases e with
  | constant c =>
    obtain rfl : c = .integer 0 := of_decide_eq_true h
    rfl
  | among a items =>
    cases items with
    | nil => rfl
    | cons _ _ => cases h
  | _ => cases h

/-- The truth of a conjunction is the conjunction of the truths. -/
theorem truth_conjunction (a b : Expression) (r : Row) (values : List Cell) :
    (conjunction a b).truth r values = (a.truth r values).and (b.truth r values) := by
  rw [conjunction]
  split
  · next hzero =>
    rw [Bool.or_eq_true] at hzero
    show Truth.no = _
    -- what is false as it stands swallows the other side, also an unknown one
    rcases hzero with ha | hb
    · rw [truth_of_isZero ha, Truth.no_and]
    · rw [truth_of_isZero hb]
      cases a.truth r values <;> rfl
  · exact Cell.truth_ofTruth _

end Expression

/-! ### Numbers of joined conditions -/

/-- The number among others of a placeholder of a condition with `k` of them, `count` being
    before them. -/
def shifted (count k n : Nat) : Nat := if 1 ≤ n ∧ n ≤ k then n + count else 0

theorem shifted_zero (count k : Nat) : shifted count k 0 = 0 := if_neg (by omega)

namespace Token

theorem renumber_of_isPassed {t : Token} (h : t.IsPassed) (σ : Nat → Nat) :
    t.renumber σ = t := by
  cases t with
  | placeholder index =>
    have := (h []).1
    cases this
  | _ => rfl

/-- Tokens that are numbered among others are renumbered tokens. -/
theorem numbered_eq_map {j k : Nat} {ts : List Token} (h : Bare j ts) (count m : Nat)
    (hk : m + j ≤ k) :
    numbered (m + count) ts = (numbered m ts).map (renumber (shifted count k)) := by
  induction ts generalizing j m with
  | nil => rfl
  | cons t ts ih =>
    obtain ⟨i, rfl, rfl, hts⟩ | ⟨hts, hpassed⟩ := h.cons_cases
    · have hnumber : shifted count k (m + 1) = m + count + 1 := by
        rw [shifted, if_pos (by omega)]
        omega
      have htail := ih hts (m + 1) (by omega)
      rw [Nat.add_right_comm] at htail
      rw [numbered, numbered, List.map_cons, htail, renumber, Option.map_some, hnumber]
    · rw [(hpassed _).2, (hpassed _).2, List.map_cons, ih hts m hk, renumber_of_isPassed hpassed]

end Token

/-- Renumbered placeholders read the values of their condition. -/
theorem placeholderCell_shifted (before slice after : List Cell) (n : Nat) :
    Expression.placeholderCell (before ++ slice ++ after) (shifted before.length slice.length n) =
      Expression.placeholderCell slice n := by
  unfold Expression.placeholderCell shifted
  by_cases hn : 1 ≤ n ∧ n ≤ slice.length
  · -- a number of the condition, moved behind the values of those before it
    rw [if_pos hn, if_neg (by omega), if_neg (by omega), List.append_assoc,
      List.getD_eq_getElem?_getD, List.getElem?_append_right (by omega),
      List.getElem?_append_left (by omega), List.getD_eq_getElem?_getD]
    congr 2
    omega
  · -- any other number reads nothing
    rw [if_neg hn, if_pos rfl]
    split
    · rfl
    · rw [List.getD_eq_getElem?_getD, List.getElem?_eq_none (by omega)]
      rfl

/-! ### Reading joined conditions -/

namespace Grammar

open Expression

/-- The tokens of a condition in parentheses. -/
def group (ts : List Token) : List Token := .opening :: (ts ++ [.closing])

/-- The tokens of conditions that each stand behind `AND`. -/
def furtherGroups (gs : List (List Token)) : List Token :=
  gs.flatMap fun g => .keyword .and "AND" :: g

/-- A condition in parentheses is an operand, also with other numbers. -/
theorem readsOperand_group {σ : Nat → Nat} (hσ : σ 0 = 0) {ts : List Token} {e : Expression}
    (h : ofTokens ts = .ok (e, [])) :
    ReadsOperand (group (ts.map (Token.renumber σ))) (e.renumber σ) := by
  intro n rest hn _
  have hlength : (group (ts.map (Token.renumber σ))).length = ts.length + 2 := by simp [group]
  obtain ⟨m, rfl⟩ : ∃ m, n = m + 2 := ⟨n - 2, by omega⟩
  have hinside : Expression.read m 0 (inside σ rest ts) = .ok (e.renumber σ, .closing :: rest) :=
    (carries hσ (by omega : 4 * ts.length + 4 ≤ m)).read h
  have hitems : readItems (m + 1) (inside σ rest ts) = .ok ([e.renumber σ], rest) := by
    rw [readItems, hinside]
  have htokens : group (ts.map (Token.renumber σ)) ++ rest = .opening :: inside σ rest ts := by
    simp [group, inside]
  rw [htokens, readOperand, hitems]

/-- Behind an operand the conditions are read one after the other. -/
theorem readFurther_groups {parts : List (List Token × Expression)}
    (h : ∀ p ∈ parts, ReadsOperand p.1 p.2) (a : Expression) {n : Nat}
    (hn : 4 * (furtherGroups (parts.map Prod.fst)).length < n) :
    readFurther n 0 a (furtherGroups (parts.map Prod.fst)) =
      .ok (parts.foldl (fun a p => conjunction a p.2) a, []) := by
  obtain ⟨n, rfl⟩ : ∃ m, n = m + 1 := ⟨n - 1, by omega⟩
  -- what is read so far grows by one condition in each step
  induction parts generalizing a n with
  | nil => rfl
  | cons p parts ih =>
    rw [List.forall_mem_cons] at h
    have htokens : furtherGroups ((p :: parts).map Prod.fst) =
        .keyword .and "AND" :: (p.1 ++ furtherGroups (parts.map Prod.fst)) := by
      simp [furtherGroups]
    rw [htokens] at hn ⊢
    rw [List.length_cons, List.length_append] at hn
    obtain ⟨m, rfl⟩ : ∃ m, n = m + 2 := ⟨n - 2, by omega⟩
    have hends : Ends (Operation.and.level + 1) (furtherGroups (parts.map Prod.fst)) := by
      cases parts with
      | nil => exact ends_nil _
      | cons q parts => exact ends_cons rfl (Nat.le_refl _) _
    have hand : Operation.ofToken? (.keyword .and "AND") = some .and := rfl
    rw [readFurther_operation hand, if_neg (by decide), h.1.read_of_ends (by omega) hends]
    exact ih h.2 _ (m + 1) (by omega)

/-- Conditions in parentheses, with `AND` between them, are read as their conjunction. -/
theorem ofTokens_groups {ts : List Token} {a : Expression} (ha : ReadsOperand ts a)
    {parts : List (List Token × Expression)} (h : ∀ p ∈ parts, ReadsOperand p.1 p.2) :
    ofTokens (ts ++ furtherGroups (parts.map Prod.fst)) =
      .ok (parts.foldl (fun a p => conjunction a p.2) a, []) := by
  have hends : EndsName (furtherGroups (parts.map Prod.fst)) := by
    cases parts with
    | nil => exact (ends_nil 0).endsName
    | cons p parts =>
      exact (ends_cons (k := Operation.and.level + 1) rfl (Nat.le_refl _) _).endsName
  have hlength : (ts ++ furtherGroups (parts.map Prod.fst)).length =
      ts.length + (furtherGroups (parts.map Prod.fst)).length := List.length_append
  rw [ofTokens, ha.read_eq (by omega) hends]
  exact readFurther_groups h a (by omega)

end Grammar

/-- The truth of a conjunction that is read from the left. -/
theorem truth_foldl_conjunction (parts : List (List Token × Expression)) (a : Expression) (r : Row)
    (values : List Cell) :
    (parts.foldl (fun a p => Expression.conjunction a p.2) a).truth r values =
      (a.truth r values).and (Truth.all (parts.map fun p => p.2.truth r values)) := by
  induction parts generalizing a with
  | nil => exact (Truth.and_yes _).symm
  | cons p parts ih =>
    rw [List.foldl_cons, ih, Expression.truth_conjunction, List.map_cons, Truth.all_cons,
      Truth.and_assoc]

end FilterQuery.Search
