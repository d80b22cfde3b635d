import FilterQuery.Access.Models
import FilterQuery.Proofs.Query.Where

namespace FilterQuery

/-!
# Runs of query steps

A query is built from the empty one by steps, which add filters or set the order and the
window.  Whatever the steps and their order, the clause of the query is the conjunction of
the filters, and the values are those of the filters.

* `QueryStep`, `Query.run` — steps, and what they make of the empty query;
* `QueryFilter.IsSound` — the filters whose conditions can stand among others;
* `Collects` — a query that has collected some filters;
* `Query.collects_run` — the queries of all runs have collected their filters;
* `Query.run_clause` — what their clauses say.
-/

open Search

/-! ### Filters -/

namespace QueryFilter

/-- The filter is a predicate over plain names, or conditions that can stand among others
    with a value for each placeholder. -/
def IsSound : QueryFilter → Prop
  | .predicate p => ∀ name ∈ p.columns, isName name = true
  | .written conditions values =>
    (∀ s ∈ conditions, Standalone s) ∧ totalCount conditions = values.length

/-- The truth of a filter on a row. -/
def truth (r : Row) : QueryFilter → Truth
  | .predicate p => p.truth r
  | .written conditions values => conditionsTruth r (values.map Value.cell) conditions

variable {f : QueryFilter}

theorem conditions_isEmpty (h : f.isEmpty = true) : f.conditions = [] := by
  cases f with
  | predicate p => exact if_pos h
  | written conditions values => exact List.isEmpty_iff.mp h

theorem IsSound.standalone (h : f.IsSound) : ∀ s ∈ f.conditions, Standalone s := by
  cases f with
  | predicate p =>
    rw [conditions]
    split
    · simp
    · simpa using (Predicate.standalone h).1
  | written conditions values => exact h.1

theorem IsSound.totalCount_eq (h : f.IsSound) : totalCount f.conditions = f.values.length := by
  cases f with
  | predicate p =>
    rw [conditions, values]
    split
    · rfl
    · rw [totalCount, (Predicate.standalone h).2.1]
      rfl
  | written conditions values => exact h.2

/-- The truth of a filter is that of its conditions with its values. -/
theorem IsSound.conditionsTruth_eq (h : f.IsSound) (r : Row) :
    conditionsTruth r (f.values.map Value.cell) f.conditions = f.truth r := by
  cases f with
  | predicate p =>
    rw [conditions, values, truth]
    split
    · next halways =>
      cases p with
      | always => rfl
      | _ => cases halways
    · obtain ⟨-, hcount, htruth⟩ := Predicate.standalone h
      have hlength : (p.binds.map Value.cell).length ≤ placeholderCount p.text :=
        Nat.le_of_eq (by rw [hcount, List.length_map])
      rw [conditionsTruth, conditionsTruth, Truth.and_yes, List.take_of_length_le hlength, htruth]
  | written conditions values => rfl

end QueryFilter

/-! ### Steps -/

/-- A step in building a query. -/
inductive QueryStep where
  | filter (f : QueryFilter)
  | orderBy (field : String) (direction : Direction)
  | defaultOrder
  | paginate (r : PageRequest)
  | limit (n : Int)
  | offset (n : Int)

/-- The filters that a step adds. -/
def QueryStep.filters : QueryStep → List QueryFilter
  | .filter f => [f]
  | _ => []

namespace Query

/-- The query after one more step. -/
def apply (e : Entity) (q : Query) : QueryStep → Except QueryError Query
  | .filter f => .ok (q.filter f)
  | .orderBy field direction => q.orderBy e field direction
  | .defaultOrder => .ok (q.defaultOrder e)
  | .paginate r => q.paginate e r
  | .limit n => .ok (q.withLimit n)
  | .offset n => .ok (q.withOffset n)

/-- The query that steps make of the empty one. -/
def run (e : Entity) (steps : List QueryStep) : Except QueryError Query :=
  steps.foldlM (apply e) empty

/-! ### Steps that add no filter -/

/-- The two queries have the same conditions and values. -/
def SameFilters (p q : Query) : Prop :=
  p.clauses = q.clauses ∧ p.values = q.values ∧ p.parameters = q.parameters

theorem orderBy_sameFilters {e : Entity} {field : String} {direction : Direction} {q q' : Query}
    (h : q.orderBy e field direction = .ok q') : SameFilters q' q := by
  rw [orderBy] at h
  split at h
  · cases h
    exact ⟨rfl, rfl, rfl⟩
  · cases h

/-- A step without a filter leaves conditions and values as they are. -/
theorem apply_sameFilters {e : Entity} {step : QueryStep} (hstep : step.filters = [])
    {q q' : Query} (h : q.apply e step = .ok q') : SameFilters q' q := by
  cases step with
  | filter f => cases hstep
  | orderBy field direction => exact orderBy_sameFilters h
  | defaultOrder =>
    cases h
    rw [defaultOrder]
    split <;> exact ⟨rfl, rfl, rfl⟩
  | paginate r =>
    rw [apply, paginate_eq] at h
    cases horder : q.orderBy e (r.order.getD e.defaultSort) (r.direction (defaultDirection e)) with
    | error error => simp [horder, Except.map] at h
    | ok sorted =>
      rw [horder] at h
      cases h
      exact (orderBy_sameFilters horder : SameFilters sorted q)
  | limit n => cases h; exact ⟨rfl, rfl, rfl⟩
  | offset n => cases h; exact ⟨rfl, rfl, rfl⟩

/-! ### Filters of a run -/

/-- The query has collected filters: its conditions are theirs, numbered from the first one
    on, and its values are theirs, all of them counted. -/
structure Collects (q : Query) (fs : List QueryFilter) : Prop where
  clauses : q.clauses = (numberConditions 0 (fs.flatMap QueryFilter.conditions)).1
  values : q.values = fs.flatMap QueryFilter.values
  parameters : q.parameters = q.values.length

theorem collects_empty : Collects empty [] := ⟨rfl, rfl, rfl⟩

theorem Collects.of_sameFilters {p q : Query} {fs : List QueryFilter} (hp : SameFilters p q)
    (hq : Collects q fs) : Collects p fs :=
  ⟨hp.1.trans hq.clauses, hp.2.1.trans hq.values,
    by rw [hp.2.2, hp.2.1, hq.parameters]⟩

theorem standalone_of_sound {fs : List QueryFilter} (h : ∀ f ∈ fs, f.IsSound) :
    ∀ s ∈ fs.flatMap QueryFilter.conditions, Standalone s := by
  intro s hs
  obtain ⟨f, hf, hs⟩ := List.mem_flatMap.mp hs
  exact (h f hf).standalone s hs

theorem totalCount_of_sound {fs : List QueryFilter} (h : ∀ f ∈ fs, f.IsSound) :
    totalCount (fs.flatMap QueryFilter.conditions) = (fs.flatMap QueryFilter.values).length := by
  induction fs with
  | nil => rfl
  | cons f fs ih =>
    rw [List.forall_mem_cons] at h
    rw [List.flatMap_cons, List.flatMap_cons, totalCount_append, ih h.2, h.1.totalCount_eq,
      List.length_append]

theorem conditionsTruth_of_sound {fs : List QueryFilter} (h : ∀ f ∈ fs, f.IsSound) (r : Row) :
    conditionsTruth r ((fs.flatMap QueryFilter.values).map Value.cell)
      (fs.flatMap QueryFilter.conditions) = Truth.all (fs.map (QueryFilter.truth r)) := by
  induction fs with
  | nil => rfl
  | cons f fs ih =>
    rw [List.forall_mem_cons] at h
    rw [List.flatMap_cons, List.flatMap_cons, List.map_append, conditionsTruth_append,
      h.1.conditionsTruth_eq, ih h.2, List.map_cons, Truth.all_cons]
    rw [List.length_map, h.1.totalCount_eq]

/-- A sound filter is collected. -/
theorem Collects.filter {q : Query} {fs : List QueryFilter} {f : QueryFilter}
    (hq : Collects q fs) (hfs : ∀ f ∈ fs, f.IsSound) (hf : f.IsSound) :
    Collects (q.filter f) (fs ++ [f]) := by
  have hparameters : q.parameters = 0 + totalCount (fs.flatMap QueryFilter.conditions) := by
    rw [hq.parameters, hq.values, totalCount_of_sound hfs, Nat.zero_add]
  have happend := numberConditions_append (standalone_of_sound hfs) f.conditions 0
  rw [← hparameters] at happend
  rw [Query.filter]
  split
  · next hempty =>
    -- an empty filter has neither conditions nor values
    have hconditions := f.conditions_isEmpty hempty
    have hvalues : f.values = [] := by
      rw [← List.length_eq_zero_iff, ← hf.totalCount_eq, hconditions]
      rfl
    refine ⟨?_, ?_, hq.parameters⟩
    · rw [hq.clauses, List.flatMap_append, List.flatMap_singleton, hconditions, List.append_nil]
    · rw [hq.values, List.flatMap_append, List.flatMap_singleton, hvalues, List.append_nil]
  · -- the conditions of the filter are numbered from the counter on
    refine ⟨?_, ?_, ?_⟩
    · rw [List.flatMap_append, List.flatMap_singleton, happend, ← hq.clauses]
    · rw [List.flatMap_append, List.flatMap_singleton, ← hq.values]
    · show (numberConditions q.parameters f.conditions).2 = (q.values ++ f.values).length
      rw [numberConditions_count hf.standalone, hq.parameters, hf.totalCount_eq,
        List.length_append]

/-- What a query has collected after one more step. -/
theorem Collects.apply {e : Entity} {q q' : Query} {fs : List QueryFilter} {step : QueryStep}
    (hq : Collects q fs) (hfs : ∀ f ∈ fs ++ step.filters, f.IsSound)
    (h : q.apply e step = .ok q') : Collects q' (fs ++ step.filters) := by
  by_cases hstep : step.filters = []
  · rw [hstep, List.append_nil]
    exact hq.of_sameFilters (apply_sameFilters hstep h)
  · cases step with
    | filter f =>
      cases h
      exact hq.filter (fun g hg => hfs g (List.mem_append_left _ hg))
        (hfs f (List.mem_append_right _ List.mem_cons_self))
    | _ => exact absurd rfl hstep

/-- What a query has collected after several more steps. -/
theorem Collects.foldlM {e : Entity} {steps : List QueryStep} {q q' : Query}
    {fs : List QueryFilter} (hq : Collects q fs)
    (hfs : ∀ f ∈ fs ++ steps.flatMap QueryStep.filters, f.IsSound)
    (h : steps.foldlM (Query.apply e) q = .ok q') :
    Collects q' (fs ++ steps.flatMap QueryStep.filters) := by
  -- by induction on the steps, with the filters so far before those to come
  induction steps generalizing q fs with
  | nil =>
    cases h
    simpa using hq
  | cons step steps ih =>
    rw [List.flatMap_cons, ← List.append_assoc] at hfs ⊢
    rw [List.foldlM_cons] at h
    cases hstep : q.apply e step with
    | error error =>
      rw [hstep] at h
      cases h
    | ok next =>
      rw [hstep] at h
      exact ih (hq.apply (fun f hf => hfs f (List.mem_append_left _ hf)) hstep) hfs h

/-- The query of a run has collected the filters of its steps. -/
theorem collects_run {e : Entity} {steps : List QueryStep} {q : Query}
    (hfs : ∀ f ∈ steps.flatMap QueryStep.filters, f.IsSound) (h : run e steps = .ok q) :
    Collects q (steps.flatMap QueryStep.filters) :=
  collects_empty.foldlM hfs h

namespace Collects

variable {q : Query} {fs : List QueryFilter}

/-- The clause is the conjunction of the filters. -/
theorem whereTruth?_eq (hq : Collects q fs) (hfs : ∀ f ∈ fs, f.IsSound) (r : Row) :
    q.whereTruth? r = some (Truth.all (fs.map (QueryFilter.truth r))) := by
  rw [Query.whereTruth?_eq (standalone_of_sound hfs) hq.clauses
      (by rw [hq.values, totalCount_of_sound hfs]), hq.values, conditionsTruth_of_sound hfs]

end Collects

end Query

end FilterQuery
