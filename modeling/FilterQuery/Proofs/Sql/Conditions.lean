import FilterQuery.Proofs.Sql.Connectives
import FilterQuery.Store.RowNumber
import Mathlib.Data.List.Basic

namespace FilterQuery

/-!
# Conditions of predicates

* `Predicate.conditions` — the conditions of a predicate, without the connectives;
* `Predicate.conditions_allOf`, `Predicate.conditions_anyOf` — the conditions of a
  conjunction or disjunction are those of its operands;
* `Predicate.sought_eq_self` — a predicate whose conditions seek the numbers of rows by
  integers alone means the same with and without the search.
-/

namespace Predicate

mutual

/-- The conditions of a predicate, from left to right. -/
def conditions : Predicate → List Condition
  | .always => []
  | .test c => [c]
  | .all ps => conditionsList ps
  | .any ps => conditionsList ps
  | .negate p => p.conditions

/-- The conditions of several predicates. -/
def conditionsList : List Predicate → List Condition
  | [] => []
  | p :: ps => p.conditions ++ conditionsList ps

end

theorem conditionsList_eq_flatMap (ps : List Predicate) :
    conditionsList ps = ps.flatMap conditions := by
  induction ps with
  | nil => rfl
  | cons p ps ih => rw [conditionsList, ih, List.flatMap_cons]

/-- A predicate reads the columns of its conditions. -/
theorem columns_eq (p : Predicate) : p.columns = p.conditions.filterMap Condition.column? := by
  have hlist (ps : List Predicate)
      (ih : ∀ p ∈ ps, p.columns = p.conditions.filterMap Condition.column?) :
      columnsList ps = (conditionsList ps).filterMap Condition.column? := by
    rw [columnsList_eq_flatMap, conditionsList_eq_flatMap, List.filterMap_flatMap]
    exact List.flatMap_congr ih
  induction p using Predicate.induction with
  | always => rfl
  | test c => cases h : c.column? <;> simp [columns, conditions, h]
  | all ps ih => exact hlist ps ih
  | any ps ih => exact hlist ps ih
  | negate p ih => exact ih

/-- A conjunction has the conditions of its operands, in order. -/
theorem conditions_allOf (ps : List Predicate) :
    (allOf ps).conditions = ps.flatMap conditions :=
  list_allOf rfl (fun ps => by rw [conditions, conditionsList_eq_flatMap]) ps

/-- A disjunction has conditions of its operands only; it has none where an operand selects
    everything. -/
theorem conditions_anyOf (ps : List Predicate) :
    (anyOf ps).conditions ⊆ ps.flatMap conditions := by
  have hoperand (p : Predicate) : p.disjuncts.flatMap conditions = p.conditions := by
    cases p <;> simp [disjuncts, conditions, conditionsList_eq_flatMap]
  have hflat : (ps.flatMap disjuncts).flatMap conditions = ps.flatMap conditions := by
    rw [List.flatMap_assoc]
    simp only [hoperand]
  rw [← hflat, anyOf]
  split
  · exact List.nil_subset _
  · split
    · next p h => simp [h]
    · rw [conditions, conditionsList_eq_flatMap]
      exact List.Subset.refl _

/-! ### Numbers of rows -/

theorem soughtList_eq_map (r : Relation) (ps : List Predicate) :
    soughtList r ps = ps.map (sought r) := by
  induction ps with
  | nil => rfl
  | cons p ps ih => rw [soughtList, ih, List.map_cons]

/-- Where each condition seeks what it says, so does the predicate. -/
theorem sought_eq_self {r : Relation} {p : Predicate}
    (h : ∀ c ∈ p.conditions, c.sought r = c) : p.sought r = p := by
  have hlist {ps : List Predicate} (ih : ∀ p ∈ ps, (∀ c ∈ p.conditions, c.sought r = c) →
      p.sought r = p) (h : ∀ c ∈ conditionsList ps, c.sought r = c) : soughtList r ps = ps := by
    have hsame : ∀ p ∈ ps, p.sought r = id p := by
      intro p hp
      apply ih p hp
      intro c hc
      apply h
      rw [conditionsList_eq_flatMap]
      exact List.mem_flatMap.mpr ⟨p, hp, hc⟩
    rw [soughtList_eq_map, List.map_congr_left hsame, List.map_id]
  induction p using Predicate.induction with
  | always => rfl
  | test c => rw [sought, h c List.mem_cons_self]
  | all ps ih => rw [sought, hlist ih h]
  | any ps ih => rw [sought, hlist ih h, ite_self]
  | negate p ih => rfl

end Predicate

end FilterQuery
