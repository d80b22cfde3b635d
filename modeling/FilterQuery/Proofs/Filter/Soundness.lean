import FilterQuery.Proofs.Filter.Literals
import FilterQuery.Proofs.Filter.Traversal

namespace FilterQuery

/-!
# Filters that were read have predicates

A filter asks for a predicate by an operator and a value.  Not every pair has one, but
reading only makes pairs that do:

* `FilterKind.Supports` — the operators of a kind of filter, with the values they take;
* `Parsed.Sound` — what reading makes of an alternative;
* `FieldFilter.exists_predicate` — a filter of such alternatives has a predicate on every
  column;
* `Field.compile_eq_error_iff_filters` — so compiling fails exactly where reading does.
-/

/-- Whether a kind of filter compares a value by an operator.  An operator on dates takes
    either one timestamp or the two ends of a range. -/
def FilterKind.Supports (k : FilterKind) (op : Operator) (v : k.Operand) : Prop :=
  match k, op, v with
  | .text, .equals, _ | .text, .like, _ => True
  | .date, .equals, .at _ | .date, .inferior, .at _ | .date, .superior, .at _ => True
  | .date, .between, .range _ _ => True
  | .number, .equals, _ | .boolean, .equals, _ | .token, .equals, _ => True
  | .enumeration, .equals, _ | .identifier, .equals, _ | .strict _, .equals, _ => True
  | _, _, _ => False

/-- The operators and values that are supported are those that have a predicate. -/
theorem FilterKind.supports_iff {k : FilterKind} {op : Operator} {v : k.Operand} (e : Expr)
    (negated : Bool) : k.Supports op v ↔ ∃ q, k.valuePredicate e op negated v = .ok q := by
  cases k with
  | date =>
    -- only for dates does the form of the value count
    cases v <;> cases op <;> simp [Supports, valuePredicate]
  | _ => cases op <;> simp [Supports, valuePredicate]

/-- A literal is read with an operator that the kind of filter supports. -/
theorem FilterKind.supports_of_readLiteral {k : FilterKind} {key literal : String}
    {op : Operator} {v : k.Operand} (h : k.readLiteral key literal = .ok (op, v)) :
    k.Supports op v :=
  (supports_iff (.column "") false).mpr (exists_valuePredicate h _ _)

/-! ### Alternatives -/

namespace Parsed

/-- An alternative as reading makes it: without a value exactly where it tests for absence,
    else with a value that is compared by its operator. -/
structure Sound (k : FilterKind) (v : Parsed k.Operand) : Prop where
  value_eq_none_iff : v.value = none ↔ v.operator = .null
  supports : ∀ x, v.value = some x → k.Supports v.operator x

/-- Reading makes sound alternatives. -/
theorem IsOf.sound {k : FilterKind} {key : String} {part : List Char} {v : Parsed k.Operand}
    (h : IsOf k key part v) : v.Sound k := by
  obtain ⟨-, rfl⟩ | ⟨-, op, x, hread, rfl⟩ := isOf_iff.mp h
  · exact ⟨by simp, by simp⟩
  · have hop : op ≠ .null := FilterKind.ne_null_of_readLiteral hread
    refine ⟨by simp [hop], ?_⟩
    intro y hy
    obtain rfl := Option.some.inj hy
    exact FilterKind.supports_of_readLiteral hread

/-- A sound alternative has a predicate. -/
theorem Sound.exists_predicate {k : FilterKind} {v : Parsed k.Operand} (h : v.Sound k)
    (column : String) :
    ∃ q, v.predicate (k.valuePredicate (k.subject column)) column = .ok q := by
  obtain ⟨op, negated, value⟩ := v
  by_cases hop : op = .null
  · subst hop
    exact ⟨_, rfl⟩
  · cases value with
    | none => exact absurd (h.value_eq_none_iff.mp rfl) hop
    | some x =>
      rw [predicate_some hop]
      exact (FilterKind.supports_iff _ _).mp (h.supports x rfl)

end Parsed

/-! ### Filters -/

/-- A filter of sound alternatives has a predicate on every column. -/
theorem FieldFilter.exists_predicate {f : FieldFilter} (h : ∀ v ∈ f.values, v.Sound f.kind)
    (column : String) : ∃ p, f.predicate column = .ok p := by
  rw [predicate]
  cases f.membership? column with
  | some p => exact ⟨p, rfl⟩
  | none =>
    have hpredicates : ∃ qs, f.values.mapM (Parsed.predicate (f.valuePredicate column) column) =
        .ok qs := exists_mapM_eq_ok fun v hv => (h v hv).exists_predicate column
    obtain ⟨qs, hqs⟩ := hpredicates
    refine ⟨.anyOf qs, ?_⟩
    show Parsed.anyOf (f.valuePredicate column) column f.values = _
    rw [Parsed.anyOf, Parsed.predicates_eq_mapM, hqs]
    rfl

/-- A filter of the parts of a value, as they are read, has a predicate on every column. -/
theorem FieldFilter.exists_predicate_of_isOf {k : FilterKind} {key : String}
    {parts : List (List Char)} {vs : List (Parsed k.Operand)}
    (hread : List.Forall₂ (Parsed.IsOf k key) parts vs) (column : String) :
    ∃ p, predicate ⟨k, key, vs⟩ column = .ok p := by
  apply exists_predicate
  intro v hv
  obtain ⟨part, -, hpart⟩ := exists_mem_of_forall₂ hread hv
  exact hpart.sound

namespace Field

variable {registry : Registry} {fs : List Field} {params : Params}

/-- The filters of contributing fields have alternatives, all of them sound. -/
theorem sound_of_filters {bs : List BoundFilter} (h : filters registry params fs = .ok bs) :
    ∀ b ∈ bs, b.filter.values ≠ [] ∧ ∀ v ∈ b.filter.values, v.Sound b.filter.kind := by
  intro b hb
  obtain ⟨f, hf, rfl, vs, hfilter, hread⟩ := exists_mem_of_forall₂ (filters_eq_ok_iff.mp h) hb
  rw [hfilter]
  refine ⟨?_, ?_⟩
  · -- a field only contributes with a part that is read
    show vs ≠ []
    rintro rfl
    have hparts := List.forall₂_nil_right_iff.mp hread
    obtain ⟨c, hc, hne⟩ := contributes_iff.mp (List.mem_filter.mp hf).2
    exact hne ((Alternative.parts_eq_nil_iff _).mp hparts c hc)
  · intro v hv
    obtain ⟨part, -, hpart⟩ := exists_mem_of_forall₂ hread hv
    exact hpart.sound

/-- The filters of contributing fields have predicates. -/
theorem exists_predicates {bs : List BoundFilter} (h : filters registry params fs = .ok bs) :
    ∃ ps, predicates bs = .ok ps := by
  rw [predicates_eq_mapM]
  apply exists_mapM_eq_ok
  intro b hb
  exact FieldFilter.exists_predicate (sound_of_filters h b hb).2 b.field.column

/-- Parameters fail to compile exactly where their filters fail to be read. -/
theorem compile_eq_error_iff_filters {e : FilterError} :
    compile registry fs params = .error e ↔ filters registry params fs = .error e := by
  rw [compile]
  cases hfilters : filters registry params fs with
  | error e' => simp
  | ok bs =>
    obtain ⟨ps, hps⟩ := exists_predicates hfilters
    simp [hps, Except.map]

end Field

end FilterQuery
