import FilterQuery.Proofs.Filter.Tags
import FilterQuery.Proofs.Sql.Conditions

namespace FilterQuery

/-!
# What compiled predicates test

* `Condition.Filters` — a condition that a kind of filter makes for a column;
* `Field.filters_of_compile` — all conditions of a compiled predicate are made for fields;
* `Field.columns_of_compile`, `Field.sought_of_compile` — it reads the columns of fields, and
  seeks the numbers of rows by integers alone;
* `Field.compile_congr` — it depends on the values of keys of fields only.
-/

namespace Condition

/-- What a condition tests. -/
def expr : Condition → Expr
  | .compare e _ _ | .like e _ _ | .isNull e _ | .member e _ _ | .between e _ _ _ => e

/-- A condition as a kind of filter makes it for a column: it tests the column, a filter of
    numbers by integers. -/
structure Filters (k : FilterKind) (column : String) (c : Condition) : Prop where
  column_eq : c.expr.columnName = column
  integers : k = .number → ∀ v ∈ c.binds, ∃ n, v = .integer n

variable {k : FilterKind} {column : String} {c : Condition}

/-- The column of a condition, if it reads one, is that of its expression. -/
theorem column?_eq_some {name : String} (h : c.column? = some name) :
    c.expr.columnName = name := by
  cases c with
  | compare | like | isNull | between => exact Option.some.inj h
  | member e vs negated =>
    rw [column?] at h
    split at h
    · cases h
    · exact Option.some.inj h

/-- A condition seeks what it says, unless it finds rows by their number and is not one of a
    filter of numbers. -/
theorem Filters.sought_eq {r : Relation} (h : c.Filters k column)
    (hnumber : r.isNumber column = true → k = .number) : c.sought r = c := by
  have hintegers {e : Expr} (he : e.columnName = column) (hfound : e.isNumber r = true) :
      k = .number := by
    cases e with
    | column name => exact hnumber (he ▸ hfound)
    | upper | asText => cases hfound
  cases c with
  | compare e op v =>
    cases op with
    | equal =>
      rw [sought]
      split
      · next hfound =>
        obtain ⟨n, rfl⟩ := h.integers (hintegers h.column_eq hfound) v List.mem_cons_self
        rfl
      · rfl
    | notEqual | less | greater => rfl
  | member e vs negated =>
    cases negated with
    | true => rfl
    | false =>
      rw [sought]
      split
      · next hfound =>
        have hsame : ∀ v ∈ vs, v.sought = id v := by
          intro v hv
          obtain ⟨n, rfl⟩ := h.integers (hintegers h.column_eq hfound) v hv
          rfl
        rw [List.map_congr_left hsame, List.map_id]
      · rfl
  | like | isNull | between => rfl

end Condition

/-! ### Filters -/

/-- All conditions of a predicate are such as a kind of filter makes for a column. -/
def Predicate.FilteredBy (k : FilterKind) (column : String) (p : Predicate) : Prop :=
  ∀ c ∈ p.conditions, c.Filters k column

theorem Predicate.FilteredBy.anyOf {k : FilterKind} {column : String} {ps : List Predicate}
    (h : ∀ p ∈ ps, p.FilteredBy k column) : (Predicate.anyOf ps).FilteredBy k column := by
  intro c hc
  obtain ⟨p, hp, hcp⟩ := List.mem_flatMap.mp (conditions_anyOf ps hc)
  exact h p hp c hcp

theorem FilterKind.columnName_subject (k : FilterKind) (column : String) :
    (k.subject column).columnName = column := by
  cases k <;> rfl

/-- The predicate of a value tests the column. -/
theorem FilterKind.filteredBy_of_valuePredicate {k : FilterKind} {column : String}
    {op : Operator} {negated : Bool} {v : k.Operand} {q : Predicate}
    (h : k.valuePredicate (k.subject column) op negated v = .ok q) : q.FilteredBy k column := by
  have hcolumn := k.columnName_subject column
  have htest {c : Condition} (hexpr : c.expr = k.subject column)
      (hintegers : k = .number → ∀ v ∈ c.binds, ∃ n, v = .integer n) :
      (Predicate.test c).FilteredBy k column := by
    intro c' hc'
    obtain rfl := List.mem_singleton.mp hc'
    exact ⟨hexpr ▸ hcolumn, hintegers⟩
  -- the orders of dates have no negated form, so their conditions are negated as a whole
  have hnegate {p : Predicate} (hp : p.FilteredBy k column) :
      (Predicate.signed negated p).FilteredBy k column := by
    cases negated <;> exact hp
  cases k with
  | text =>
    cases op with
    | equals | like =>
      obtain rfl := Except.ok.inj h
      exact htest rfl nofun
    | inferior | superior | between | null => cases h
  | number =>
    cases op with
    | equals =>
      obtain rfl := Except.ok.inj h
      refine htest rfl fun _ w hw => ?_
      exact ⟨v, List.mem_singleton.mp hw⟩
    | inferior | superior | between | null | like => cases h
  | date =>
    cases v with
    | «at» t =>
      cases op with
      | equals =>
        obtain rfl := Except.ok.inj h
        exact htest rfl nofun
      | inferior | superior =>
        obtain rfl := Except.ok.inj h
        exact hnegate (htest rfl nofun)
      | between | null | like => cases h
    | range a b =>
      cases op with
      | between =>
        obtain rfl := Except.ok.inj h
        exact htest rfl nofun
      | equals | inferior | superior | null | like => cases h
  | boolean | token | enumeration | identifier | strict =>
    cases op with
    | equals =>
      obtain rfl := Except.ok.inj h
      exact htest rfl nofun
    | inferior | superior | between | null | like => cases h

namespace Parsed

/-- The predicate of an alternative tests the column. -/
theorem filteredBy_of_predicate {k : FilterKind} {column : String} {v : Parsed k.Operand}
    {q : Predicate} (h : v.predicate (k.valuePredicate (k.subject column)) column = .ok q) :
    q.FilteredBy k column := by
  obtain ⟨op, negated, value⟩ := v
  by_cases hop : op = .null
  · subst hop
    obtain rfl := Except.ok.inj h
    intro c hc
    obtain rfl := List.mem_singleton.mp hc
    exact ⟨rfl, fun _ w hw => absurd hw List.not_mem_nil⟩
  · cases value with
    | none =>
      rw [predicate_none hop] at h
      cases h
    | some x =>
      rw [predicate_some hop] at h
      exact FilterKind.filteredBy_of_valuePredicate h

/-- Membership in a list of numbers tests the column by integers. -/
theorem filteredBy_of_membership? {column : String} {vs : List (Parsed Int)} {p : Predicate}
    (h : membership? column vs = some p) : p.FilteredBy .number column := by
  cases vs with
  | nil => cases h
  | cons v vs =>
    rw [membership?_eq] at h
    split at h
    · obtain rfl := Option.some.inj h
      intro c hc
      obtain rfl := List.mem_singleton.mp hc
      refine ⟨rfl, fun _ w hw => ?_⟩
      obtain ⟨u, -, hu⟩ := List.mem_filterMap.mp hw
      obtain ⟨n, -, hn⟩ := Option.map_eq_some_iff.mp hu
      exact ⟨n, hn.symm⟩
    · cases h

end Parsed

/-- The predicate of a filter tests the column. -/
theorem FieldFilter.filteredBy_of_predicate {f : FieldFilter} {column : String} {p : Predicate}
    (h : f.predicate column = .ok p) : p.FilteredBy f.kind column := by
  rw [predicate] at h
  cases hmember : f.membership? column with
  | some q =>
    rw [hmember] at h
    obtain rfl := Except.ok.inj h
    obtain ⟨k, key, vs⟩ := f
    cases k with
    | number => exact Parsed.filteredBy_of_membership? hmember
    | text | boolean | date | token | enumeration | identifier | strict => cases hmember
  | none =>
    rw [hmember] at h
    obtain ⟨qs, hqs, rfl⟩ := Parsed.anyOf_eq_ok_iff.mp h
    apply Predicate.FilteredBy.anyOf
    intro q hq
    obtain ⟨v, -, hv⟩ := exists_mem_of_forall₂ hqs hq
    exact Parsed.filteredBy_of_predicate hv

/-! ### Fields -/

namespace Field

variable {registry : Registry} {fs : List Field} {params : Params} {p : Predicate}

/-- Each condition of a compiled predicate is made for a field. -/
theorem filters_of_compile (h : compile registry fs params = .ok p) :
    ∀ c ∈ p.conditions, ∃ f ∈ fs, c.Filters (f.kind registry) f.column := by
  obtain ⟨bs, ps, hbs, hps, rfl⟩ := compile_eq_ok_iff.mp h
  intro c hc
  rw [Predicate.conditions_allOf] at hc
  obtain ⟨q, hq, hcq⟩ := List.mem_flatMap.mp hc
  obtain ⟨b, hb, hpredicate⟩ := exists_mem_of_forall₂ hps hq
  obtain ⟨f, hf, rfl, vs, hfilter, -⟩ := exists_mem_of_forall₂ hbs hb
  rw [BoundFilter.predicate, hfilter] at hpredicate
  exact ⟨b.field, List.mem_of_mem_filter hf,
    FieldFilter.filteredBy_of_predicate hpredicate c hcq⟩

/-- A compiled predicate reads the columns of fields. -/
theorem columns_of_compile (h : compile registry fs params = .ok p) :
    ∀ name ∈ p.columns, ∃ f ∈ fs, f.column = name := by
  intro name hname
  rw [Predicate.columns_eq] at hname
  obtain ⟨c, hc, hcolumn⟩ := List.mem_filterMap.mp hname
  obtain ⟨f, hf, hfilters⟩ := filters_of_compile h c hc
  exact ⟨f, hf, hfilters.column_eq.symm.trans (Condition.column?_eq_some hcolumn)⟩

/-- Where only numbers are filtered by the number of a row, a compiled predicate seeks what it
    says. -/
theorem sought_of_compile {r : Relation} (h : compile registry fs params = .ok p)
    (hnumber : ∀ f ∈ fs, r.isNumber f.column = true → f.kind registry = .number) :
    p.sought r = p := by
  apply Predicate.sought_eq_self
  intro c hc
  obtain ⟨f, hf, hfilters⟩ := filters_of_compile h c hc
  exact hfilters.sought_eq (hnumber f hf)

/-- Parameters with the same values for the keys of fields compile to the same predicate. -/
theorem compile_congr {params' : Params}
    (h : ∀ f ∈ fs, params.get? f.key = params'.get? f.key) :
    compile registry fs params = compile registry fs params' := by
  have hfilters : filters registry params fs = filters registry params' fs := by
    induction fs with
    | nil => rfl
    | cons f fs ih =>
      rw [List.forall_mem_cons] at h
      rw [filters, filters, filter?, filter?, h.1, ih h.2]
  rw [compile, compile, hfilters]

end Field

end FilterQuery
