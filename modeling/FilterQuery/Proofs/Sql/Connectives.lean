import FilterQuery.Sql.Meaning
import FilterQuery.Sql.Printer

namespace FilterQuery

/-!
# Conjunctions and disjunctions of predicates

`Predicate.allOf` and `Predicate.anyOf` merge nodes, drop operands that select everything
and leave out needless nodes.  None of this shows in the truth of the result:

* `Predicate.induction` — induction over the operands of nodes;
* `Predicate.truth_allOf` / `Predicate.truth_anyOf` — the truth is the conjunction or the
  disjunction of the truths of the operands;
* `Predicate.list_allOf` — what is listed operand by operand is so listed from a conjunction,
  such as the values that it binds and the columns that it reads;
* `Predicate.connectives_kleene` — the connectives are those of Kleene.
-/

namespace Truth

/-- The negation of a disjunction is the conjunction of the negations. -/
theorem not_any (ts : List Truth) : (any ts).not = all (ts.map not) := by
  induction ts with
  | nil => rfl
  | cons t ts ih => rw [any_cons, not_or, ih, List.map_cons, all_cons]

theorem all_flatMap {α : Type} (f : α → List Truth) (as : List α) :
    all (as.flatMap f) = all (as.map fun a => all (f a)) := by
  induction as with
  | nil => rfl
  | cons a as ih => rw [List.flatMap_cons, all_append, ih, List.map_cons, all_cons]

theorem any_flatMap {α : Type} (f : α → List Truth) (as : List α) :
    any (as.flatMap f) = any (as.map fun a => any (f a)) := by
  induction as with
  | nil => rfl
  | cons a as ih => rw [List.flatMap_cons, any_append, ih, List.map_cons, any_cons]

/-- A conjunction is true exactly where all of its operands are. -/
theorem all_eq_yes_iff {ts : List Truth} : all ts = .yes ↔ ∀ t ∈ ts, t = .yes := by
  induction ts with
  | nil => simp
  | cons t ts ih =>
    rw [all_cons, List.forall_mem_cons, ← ih]
    cases t <;> cases all ts <;> decide

/-- A conjunction is false exactly where one of its operands is, known or not what the others
    are. -/
theorem all_eq_no_iff {ts : List Truth} : all ts = .no ↔ .no ∈ ts := by
  induction ts with
  | nil => simp
  | cons t ts ih =>
    rw [all_cons, List.mem_cons, ← ih]
    cases t <;> cases all ts <;> decide

/-- A disjunction is true exactly where one of its operands is. -/
theorem any_eq_yes_iff {ts : List Truth} : any ts = .yes ↔ .yes ∈ ts := by
  induction ts with
  | nil => simp
  | cons t ts ih =>
    rw [any_cons, List.mem_cons, ← ih]
    cases t <;> cases any ts <;> decide

/-- A disjunction is false exactly where all of its operands are. -/
theorem any_eq_no_iff {ts : List Truth} : any ts = .no ↔ ∀ t ∈ ts, t = .no := by
  induction ts with
  | nil => simp
  | cons t ts ih =>
    rw [any_cons, List.forall_mem_cons, ← ih]
    cases t <;> cases any ts <;> decide

end Truth

namespace Predicate

/-- Induction over predicates: what holds of all operands of a node holds of the node. -/
@[elab_as_elim]
theorem induction {motive : Predicate → Prop} (always : motive .always)
    (test : ∀ c, motive (.test c)) (all : ∀ ps, (∀ p ∈ ps, motive p) → motive (.all ps))
    (any : ∀ ps, (∀ p ∈ ps, motive p) → motive (.any ps))
    (negate : ∀ p, motive p → motive (.negate p)) : ∀ p, motive p
  | .always => always
  | .test c => test c
  | .all ps => all ps fun p _ => induction always test all any negate p
  | .any ps => any ps fun p _ => induction always test all any negate p
  | .negate p => negate p (induction always test all any negate p)

/-! ### Truth -/

/-- What a conjunction takes from an operand is true together with it. -/
theorem all_conjuncts (r : Row) (p : Predicate) :
    Truth.all (p.conjuncts.map (truth r)) = p.truth r := by
  cases p with
  | always => simp [conjuncts, truth]
  | all ps => simp [conjuncts, truth, allTruth_eq]
  | test c => simp [conjuncts]
  | any ps => simp [conjuncts]
  | negate p => simp [conjuncts]

/-- What a disjunction takes from an operand is true together with it. -/
theorem any_disjuncts (r : Row) (p : Predicate) :
    Truth.any (p.disjuncts.map (truth r)) = p.truth r := by
  cases p with
  | any ps => simp [disjuncts, truth, anyTruth_eq]
  | always => simp [disjuncts]
  | all ps => simp [disjuncts]
  | test c => simp [disjuncts]
  | negate p => simp [disjuncts]

/-- The truth of a conjunction is the conjunction of the truths of its operands. -/
theorem truth_allOf (r : Row) (ps : List Predicate) :
    (allOf ps).truth r = Truth.all (ps.map (truth r)) := by
  have hflat : Truth.all ((ps.flatMap conjuncts).map (truth r)) = Truth.all (ps.map (truth r)) := by
    rw [List.map_flatMap, Truth.all_flatMap]
    simp only [all_conjuncts]
  rw [← hflat, allOf]
  split
  · next h => simp [h, truth]
  · next p h => simp [h]
  · rw [truth, allTruth_eq]

/-- The truth of a disjunction is the disjunction of the truths of its operands. -/
theorem truth_anyOf (r : Row) (ps : List Predicate) :
    (anyOf ps).truth r = Truth.any (ps.map (truth r)) := by
  have hflat : Truth.any ((ps.flatMap disjuncts).map (truth r)) = Truth.any (ps.map (truth r)) := by
    rw [List.map_flatMap, Truth.any_flatMap]
    simp only [any_disjuncts]
  rw [← hflat, anyOf]
  split
  · next h =>
    obtain ⟨p, hp, halways⟩ := List.any_eq_true.mp h
    have hyes : Truth.yes ∈ (ps.flatMap disjuncts).map (truth r) := by
      refine List.mem_map.mpr ⟨p, hp, ?_⟩
      cases p <;> simp_all [isAlways, truth]
    rw [truth, Truth.any_eq_yes_iff.mpr hyes]
  · split
    · next p h => simp [h]
    · rw [truth, anyTruth_eq]

/-! ### Values and columns -/

/-- What is listed from `always` not at all and from a conjunction node operand by operand is so
    listed from a conjunction, whatever nodes it leaves out. -/
theorem list_allOf {α : Type} {f : Predicate → List α} (halways : f .always = [])
    (hall : ∀ ps, f (.all ps) = ps.flatMap f) (ps : List Predicate) :
    f (allOf ps) = ps.flatMap f := by
  have hoperand (p : Predicate) : p.conjuncts.flatMap f = f p := by
    cases p with
    | always => exact halways.symm
    | all ps => exact (hall ps).symm
    | test | any | negate => exact List.flatMap_singleton ..
  have hflat : (ps.flatMap conjuncts).flatMap f = ps.flatMap f := by
    rw [List.flatMap_assoc]
    simp only [hoperand]
  rw [← hflat, allOf]
  split
  · next h => rw [h, halways, List.flatMap_nil]
  · next p h => rw [h, List.flatMap_singleton]
  · exact hall _

/-- A conjunction binds the values of its operands, in order. -/
theorem binds_allOf (ps : List Predicate) : (allOf ps).binds = ps.flatMap binds :=
  list_allOf rfl (fun ps => by rw [binds, bindsList_eq_flatMap]) ps

theorem columnsList_eq_flatMap (ps : List Predicate) : columnsList ps = ps.flatMap columns := by
  induction ps with
  | nil => rfl
  | cons p ps ih => rw [columnsList, ih, List.flatMap_cons]

/-- **Kleene's connectives.** Of any predicates, joined or not, and on every row, `allOf` is the
    three-valued conjunction: true where all operands are, as where there are none, false where
    one is, and unknown otherwise.  `anyOf` is the disjunction: true where one operand is, false
    where all are, as where there are none.  A conjunction binds the values of its operands, in
    order. -/
theorem connectives_kleene (ps : List Predicate) (r : Row) :
    (allOf ps).truth r = Truth.all (ps.map (truth r)) ∧
    ((allOf ps).truth r = .yes ↔ ∀ p ∈ ps, p.truth r = .yes) ∧
    ((allOf ps).truth r = .no ↔ ∃ p ∈ ps, p.truth r = .no) ∧
    (anyOf ps).truth r = Truth.any (ps.map (truth r)) ∧
    ((anyOf ps).truth r = .yes ↔ ∃ p ∈ ps, p.truth r = .yes) ∧
    ((anyOf ps).truth r = .no ↔ ∀ p ∈ ps, p.truth r = .no) ∧
    (allOf ps).binds = ps.flatMap binds := by
  refine ⟨truth_allOf r ps, ?_, ?_, truth_anyOf r ps, ?_, ?_, binds_allOf ps⟩
  · rw [truth_allOf, Truth.all_eq_yes_iff, List.forall_mem_map]
  · rw [truth_allOf, Truth.all_eq_no_iff, List.mem_map]
  · rw [truth_anyOf, Truth.any_eq_yes_iff, List.mem_map]
  · rw [truth_anyOf, Truth.any_eq_no_iff, List.forall_mem_map]

end Predicate

end FilterQuery
