import FilterQuery.Proofs.Sql.Connectives

namespace FilterQuery

/-!
# The structure of predicates

`Predicate.allOf` and `Predicate.anyOf` build nodes; here is what such nodes look like.

* `Predicate.IsSubstantial` — a predicate without a node that is the same for all rows;
* `IsSubstantial.allOf`, `IsSubstantial.anyOf` — the connectives make such predicates of such
  operands, if there are any;
* `Predicate.IsLeaf` — a condition or a negation, which no connective takes apart;
* `Predicate.conjuncts_allOf_flat`, `Predicate.allOf_allOf` — a conjunction has the conjuncts of
  its operands, whether they are joined one by one or in groups.
-/

/-- Whether a condition has the same truth on all rows: membership in an empty list. -/
def Condition.isConstant : Condition → Bool
  | .member _ vs _ => vs.isEmpty
  | _ => false

namespace Predicate

/-- A predicate of conditions on rows: nowhere in it stands `always`, a node without operands
    or membership in an empty list. -/
inductive IsSubstantial : Predicate → Prop
  | test {c : Condition} (h : c.isConstant = false) : IsSubstantial (.test c)
  | all {ps : List Predicate} (hne : ps ≠ []) (h : ∀ p ∈ ps, IsSubstantial p) :
    IsSubstantial (.all ps)
  | any {ps : List Predicate} (hne : ps ≠ []) (h : ∀ p ∈ ps, IsSubstantial p) :
    IsSubstantial (.any ps)
  | negate {p : Predicate} (h : IsSubstantial p) : IsSubstantial (.negate p)

/-- A condition or a negation. -/
inductive IsLeaf : Predicate → Prop
  | test {c : Condition} : IsLeaf (.test c)
  | negate {p : Predicate} : IsLeaf (.negate p)

/-! ### Nodes that say something -/

variable {p : Predicate} {ps : List Predicate}

theorem IsSubstantial.ne_always (h : p.IsSubstantial) : p ≠ .always := by
  rintro rfl
  cases h

theorem IsSubstantial.signed (h : p.IsSubstantial) (negated : Bool) :
    (signed negated p).IsSubstantial := by
  cases negated with
  | false => exact h
  | true => exact .negate h

/-- A conjunction takes at least one operand from each of its own, and only such as say
    something. -/
theorem IsSubstantial.conjuncts (h : p.IsSubstantial) :
    p.conjuncts ≠ [] ∧ ∀ q ∈ p.conjuncts, q.IsSubstantial := by
  cases h with
  | all hne h => exact ⟨hne, h⟩
  | test h => exact ⟨List.cons_ne_nil _ _, List.forall_mem_singleton.mpr (.test h)⟩
  | any hne h => exact ⟨List.cons_ne_nil _ _, List.forall_mem_singleton.mpr (.any hne h)⟩
  | negate h => exact ⟨List.cons_ne_nil _ _, List.forall_mem_singleton.mpr (.negate h)⟩

/-- So does a disjunction. -/
theorem IsSubstantial.disjuncts (h : p.IsSubstantial) :
    p.disjuncts ≠ [] ∧ ∀ q ∈ p.disjuncts, q.IsSubstantial := by
  cases h with
  | any hne h => exact ⟨hne, h⟩
  | test h => exact ⟨List.cons_ne_nil _ _, List.forall_mem_singleton.mpr (.test h)⟩
  | all hne h => exact ⟨List.cons_ne_nil _ _, List.forall_mem_singleton.mpr (.all hne h)⟩
  | negate h => exact ⟨List.cons_ne_nil _ _, List.forall_mem_singleton.mpr (.negate h)⟩

/-- What is taken from several operands is there, and says something, if each part does. -/
theorem flatMap_substantial {f : Predicate → List Predicate} (hne : ps ≠ [])
    (h : ∀ p ∈ ps, f p ≠ [] ∧ ∀ q ∈ f p, q.IsSubstantial) :
    ps.flatMap f ≠ [] ∧ ∀ q ∈ ps.flatMap f, q.IsSubstantial := by
  constructor
  · obtain ⟨p, hp⟩ := List.exists_mem_of_ne_nil ps hne
    intro hflat
    exact (h p hp).1 (List.flatMap_eq_nil_iff.mp hflat p hp)
  · intro q hq
    obtain ⟨p, hp, hqp⟩ := List.mem_flatMap.mp hq
    exact (h p hp).2 q hqp

/-- The conjunction of predicates that say something says something. -/
theorem IsSubstantial.allOf (hne : ps ≠ []) (h : ∀ p ∈ ps, p.IsSubstantial) :
    (allOf ps).IsSubstantial := by
  obtain ⟨hflat, hsubstantial⟩ := flatMap_substantial hne fun p hp => (h p hp).conjuncts
  unfold Predicate.allOf
  split
  · next hnil => exact absurd hnil hflat
  · next q hq => exact hsubstantial q (hq ▸ List.mem_cons_self)
  · exact .all hflat hsubstantial

/-- The disjunction of predicates that say something says something. -/
theorem IsSubstantial.anyOf (hne : ps ≠ []) (h : ∀ p ∈ ps, p.IsSubstantial) :
    (anyOf ps).IsSubstantial := by
  obtain ⟨hflat, hsubstantial⟩ := flatMap_substantial hne fun p hp => (h p hp).disjuncts
  unfold Predicate.anyOf
  dsimp only
  split
  · next hany =>
    obtain ⟨q, hq, halways⟩ := List.any_eq_true.mp hany
    have hne := (hsubstantial q hq).ne_always
    cases q <;> first | exact absurd rfl hne | cases halways
  · split
    · next q hq => exact hsubstantial q (hq ▸ List.mem_cons_self)
    · exact .any hflat hsubstantial

/-! ### Nodes that stay whole -/

theorem IsLeaf.signed (h : p.IsLeaf) (negated : Bool) : (signed negated p).IsLeaf := by
  cases negated with
  | false => exact h
  | true => exact .negate

theorem IsLeaf.conjuncts_eq (h : p.IsLeaf) : p.conjuncts = [p] := by
  cases h <;> rfl

theorem IsLeaf.disjuncts_eq (h : p.IsLeaf) : p.disjuncts = [p] := by
  cases h <;> rfl

theorem IsLeaf.isAlways_eq (h : p.IsLeaf) : p.isAlways = false := by
  cases h <;> rfl

/-- Operands that are taken whole are taken as they are. -/
theorem flatMap_eq_self {f : Predicate → List Predicate} (h : ∀ p ∈ ps, f p = [p]) :
    ps.flatMap f = ps := by
  induction ps with
  | nil => rfl
  | cons p ps ih =>
    rw [List.forall_mem_cons] at h
    rw [List.flatMap_cons, h.1, ih h.2]
    rfl

/-- The disjunction of conditions and negations is the only one of them, or a node of them
    all. -/
theorem anyOf_leaves (h : ∀ p ∈ ps, p.IsLeaf) :
    (∃ p, ps = [p] ∧ anyOf ps = p) ∨ anyOf ps = .any ps := by
  have hflat : ps.flatMap disjuncts = ps := flatMap_eq_self fun p hp => (h p hp).disjuncts_eq
  have hany : ps.any isAlways = false := by
    rw [List.any_eq_false]
    intro p hp
    rw [(h p hp).isAlways_eq]
    exact Bool.false_ne_true
  unfold anyOf
  rw [hflat]
  dsimp only
  rw [hany, if_neg Bool.false_ne_true]
  split
  · next p => exact .inl ⟨p, rfl, rfl⟩
  · exact .inr rfl

/-- A conjunction takes the disjunction of conditions and negations as a whole. -/
theorem conjuncts_anyOf (h : ∀ p ∈ ps, p.IsLeaf) : (anyOf ps).conjuncts = [anyOf ps] := by
  obtain ⟨p, rfl, hp⟩ | hnode := anyOf_leaves h
  · rw [hp]
    exact (h p List.mem_cons_self).conjuncts_eq
  · rw [hnode]
    rfl

/-- The disjunction of conditions and negations binds their values, in order. -/
theorem binds_anyOf (h : ∀ p ∈ ps, p.IsLeaf) : (anyOf ps).binds = ps.flatMap binds := by
  obtain ⟨p, rfl, hp⟩ | hnode := anyOf_leaves h
  · rw [hp, List.flatMap_singleton]
  · rw [hnode, binds, bindsList_eq_flatMap]

/-! ### Conjunctions -/

/-- The conjuncts of a conjunction are those of its operands, if each of these is taken whole. -/
theorem conjuncts_allOf_flat (h : ∀ q ∈ ps.flatMap conjuncts, q.conjuncts = [q]) :
    (allOf ps).conjuncts = ps.flatMap conjuncts := by
  unfold allOf
  split
  · next hnil =>
    rw [hnil]
    rfl
  · next q hq =>
    rw [hq] at h ⊢
    exact h q List.mem_cons_self
  · rfl

/-- Operands that are taken whole are their own conjuncts, so these are taken whole. -/
theorem conjuncts_flat_of_whole (h : ∀ p ∈ ps, p.conjuncts = [p]) :
    ∀ q ∈ ps.flatMap conjuncts, q.conjuncts = [q] := by
  rw [flatMap_eq_self h]
  exact h

/-- The conjuncts of a conjunction are its operands, if these are taken whole. -/
theorem conjuncts_allOf (h : ∀ p ∈ ps, p.conjuncts = [p]) : (allOf ps).conjuncts = ps := by
  rw [conjuncts_allOf_flat (conjuncts_flat_of_whole h), flatMap_eq_self h]

/-- Operands whose conjuncts are taken whole may be joined in two groups first. -/
theorem allOf_allOf {qs : List Predicate} (hps : ∀ q ∈ ps.flatMap conjuncts, q.conjuncts = [q])
    (hqs : ∀ q ∈ qs.flatMap conjuncts, q.conjuncts = [q]) :
    allOf [allOf ps, allOf qs] = allOf (ps ++ qs) := by
  have hflat : [allOf ps, allOf qs].flatMap conjuncts = (ps ++ qs).flatMap conjuncts := by
    rw [List.flatMap_append, List.flatMap_cons, List.flatMap_cons, conjuncts_allOf_flat hps,
      conjuncts_allOf_flat hqs, List.flatMap_nil, List.append_nil]
  rw [allOf, hflat, ← allOf]

end Predicate

end FilterQuery
