import FilterQuery.Filter.Compile
import FilterQuery.Proofs.Filter.Parts
import FilterQuery.Proofs.Steps

namespace FilterQuery

/-!
# Traversals of alternatives and fields

Alternatives are read, and predicates built, one after the other up to the first error.
Where no error comes up, the results stand beside what they come from:

* `FieldFilter.read_eq_ok_some_iff` — what a filter value is read as;
* `Field.filters_eq_ok_iff` — the filters of the fields that contribute;
* `Field.compile_eq_ok_iff` — the conjunction that parameters compile to.
-/

/-! ### Alternatives -/

theorem Alternative.parseAll_eq_mapM {α : Type}
    (readLiteral : String → Except FilterError (Operator × α)) (as : List Alternative) :
    parseAll readLiteral as = as.mapM (parse readLiteral) := by
  induction as with
  | nil => rfl
  | cons a as ih =>
    rw [parseAll, List.mapM_cons, ih]
    cases parse readLiteral a with
    | error e => rfl
    | ok v => cases as.mapM (parse readLiteral) <;> rfl

theorem Parsed.predicates_eq_mapM {α : Type}
    (valuePredicate : Operator → Bool → α → Except FilterError Predicate) (column : String)
    (ps : List (Parsed α)) :
    predicates valuePredicate column ps = ps.mapM (Parsed.predicate valuePredicate column) := by
  induction ps with
  | nil => rfl
  | cons p ps ih =>
    rw [predicates, List.mapM_cons, ih]
    cases Parsed.predicate valuePredicate column p with
    | error e => rfl
    | ok q => cases ps.mapM (Parsed.predicate valuePredicate column) <;> rfl

theorem Field.predicates_eq_mapM (bs : List BoundFilter) :
    predicates bs = bs.mapM BoundFilter.predicate := by
  induction bs with
  | nil => rfl
  | cons b bs ih =>
    rw [predicates, List.mapM_cons, ih]
    cases b.predicate with
    | error e => rfl
    | ok p => cases bs.mapM BoundFilter.predicate <;> rfl

/-! ### Filters -/

/-- What a kind of filter makes of a part of a filter value. -/
def Parsed.IsOf (k : FilterKind) (key : String) (part : List Char) (v : Parsed k.Operand) : Prop :=
  (Alternative.ofLiteral (Alternative.negates part) (Alternative.literalOf part)).parse
    (k.readLiteral key) = .ok v

/-- A part is read as a test for absence, or as what its literal is read as. -/
theorem Parsed.isOf_iff {k : FilterKind} {key : String} {part : List Char}
    {v : Parsed k.Operand} :
    IsOf k key part v ↔
      (Alternative.isNullLiteral (Alternative.literalOf part) = true ∧
        v = ⟨.null, Alternative.negates part, none⟩) ∨
      (Alternative.isNullLiteral (Alternative.literalOf part) = false ∧
        ∃ op x, k.readLiteral key (Alternative.literalOf part) = .ok (op, x) ∧
          v = ⟨op, Alternative.negates part, some x⟩) := by
  rw [IsOf, Alternative.parse, Alternative.isNull_ofLiteral]
  cases hnull : Alternative.isNullLiteral (Alternative.literalOf part) with
  | true => simp [Alternative.operator_ofLiteral, hnull, eq_comm]
  | false =>
    cases hread : k.readLiteral key (Alternative.literalOf part) with
    | error e => simp [Except.map, hread]
    | ok y =>
      obtain ⟨op, x⟩ := y
      simp [Except.map, hread, eq_comm, and_assoc]

namespace Parsed

variable {α : Type} {valuePredicate : Operator → Bool → α → Except FilterError Predicate}
  {column : String} {op : Operator} {negated : Bool}

/-- A value is compared by its operator, unless that is the test for absence. -/
theorem predicate_some (hop : op ≠ .null) (v : α) :
    predicate valuePredicate column ⟨op, negated, some v⟩ = valuePredicate op negated v := by
  cases op <;> first | rfl | exact absurd rfl hop

theorem predicate_none (hop : op ≠ .null) :
    predicate valuePredicate column ⟨op, negated, none⟩ = .error (.unsupported op) := by
  cases op <;> first | rfl | exact absurd rfl hop

end Parsed

namespace FieldFilter

/-- A filter value gives no filter exactly where it holds separators only. -/
theorem read_eq_ok_none_iff (k : FilterKind) (key : String) {raw : String} :
    read k key (some raw) = .ok none ↔ ∀ c ∈ raw.toList, c = Alternative.separator := by
  rw [← Alternative.split_eq_nil_iff, read]
  cases Alternative.split (some raw) with
  | nil => simp
  | cons a as =>
    cases h : Alternative.parseAll (k.readLiteral key) (a :: as) <;> simp [h, Except.map]

/-- A filter value gives the filter of what its parts are read as, if it has any. -/
theorem read_eq_ok_some_iff {k : FilterKind} {key raw : String} {f : FieldFilter} :
    read k key (some raw) = .ok (some f) ↔
      (∃ c ∈ raw.toList, c ≠ Alternative.separator) ∧
        ∃ vs, f = ⟨k, key, vs⟩ ∧
          List.Forall₂ (Parsed.IsOf k key) (Alternative.parts raw) vs := by
  have hparts (vs : List (Parsed k.Operand)) :
      List.Forall₂ (Parsed.IsOf k key) (Alternative.parts raw) vs ↔
        Alternative.parseAll (k.readLiteral key) (Alternative.split (some raw)) = .ok vs := by
    rw [Alternative.parseAll_eq_mapM, mapM_eq_ok_iff, Alternative.split_eq_map_parts,
      List.forall₂_map_left_iff]
    rfl
  have hempty : (∃ c ∈ raw.toList, c ≠ Alternative.separator) ↔
      Alternative.split (some raw) ≠ [] := by
    rw [Ne, Alternative.split_eq_nil_iff]
    push Not
    rfl
  simp only [hparts, hempty]
  rw [read]
  cases Alternative.split (some raw) with
  | nil => simp
  | cons a as =>
    cases h : Alternative.parseAll (k.readLiteral key) (a :: as) with
    | error e => simp [h, Except.map]
    | ok vs => simp [h, Except.map, eq_comm]

end FieldFilter

/-! ### Fields -/

namespace Field

/-- Whether the parameters hold a value for a field with a character other than the
    separator. -/
def contributes (params : Params) (f : Field) : Bool :=
  ((params.get? f.key).getD "").toList.any fun c => decide (c ≠ '|')

/-- The filter that the parameters hold for a contributing field. -/
def Gives (registry : Registry) (params : Params) (f : Field) (b : BoundFilter) : Prop :=
  b.field = f ∧ ∃ vs, b.filter = ⟨f.kind registry, f.key, vs⟩ ∧
    List.Forall₂ (Parsed.IsOf (f.kind registry) f.key)
      (Alternative.parts ((params.get? f.key).getD "")) vs

theorem contributes_iff {params : Params} {f : Field} :
    f.contributes params = true ↔
      ∃ c ∈ ((params.get? f.key).getD "").toList, c ≠ Alternative.separator := by
  simp [contributes, Alternative.separator]

theorem filter?_eq_ok_none_iff {registry : Registry} {params : Params} {f : Field} :
    f.filter? registry params = .ok none ↔ f.contributes params = false := by
  rw [← Bool.not_eq_true, contributes_iff, filter?]
  cases params.get? f.key with
  | none => simp
  | some raw =>
    push Not
    rw [Option.getD_some, ← FieldFilter.read_eq_ok_none_iff (f.kind registry) f.key]
    cases FieldFilter.read (f.kind registry) f.key (some raw) with
    | error e => simp [Except.map]
    | ok o => cases o <;> simp [Except.map]

theorem filter?_eq_ok_some_iff {registry : Registry} {params : Params} {f : Field}
    {b : BoundFilter} :
    f.filter? registry params = .ok (some b) ↔
      f.contributes params = true ∧ f.Gives registry params b := by
  rw [contributes_iff, filter?, Gives]
  cases params.get? f.key with
  | none => simp
  | some raw =>
    have hbound : (FieldFilter.read (f.kind registry) f.key (some raw)).map
          (fun o => o.map (BoundFilter.mk f ·)) = .ok (some b) ↔
        b.field = f ∧
          FieldFilter.read (f.kind registry) f.key (some raw) = .ok (some b.filter) := by
      cases FieldFilter.read (f.kind registry) f.key (some raw) with
      | error e => simp [Except.map]
      | ok o =>
        cases o with
        | none => simp [Except.map]
        | some filter =>
          cases b
          simp [Except.map, eq_comm]
    rw [hbound, FieldFilter.read_eq_ok_some_iff, Option.getD_some]
    exact and_left_comm

theorem filters_cons_eq_ok_iff {registry : Registry} {params : Params} {f : Field}
    {fs : List Field} {bs : List BoundFilter} :
    filters registry params (f :: fs) = .ok bs ↔
      (f.filter? registry params = .ok none ∧ filters registry params fs = .ok bs) ∨
        ∃ b bs', f.filter? registry params = .ok (some b) ∧
          filters registry params fs = .ok bs' ∧ bs = b :: bs' := by
  rw [filters]
  cases f.filter? registry params with
  | error e => simp
  | ok o =>
    cases o with
    | none => simp
    | some b => cases filters registry params fs <;> simp [Except.map, eq_comm]

/-- The filters that parameters give are those of the contributing fields, in order. -/
theorem filters_eq_ok_iff {registry : Registry} {params : Params} {fs : List Field}
    {bs : List BoundFilter} :
    filters registry params fs = .ok bs ↔
      List.Forall₂ (Gives registry params) (fs.filter (contributes params)) bs := by
  -- a field without a filter is passed over on both sides
  induction fs generalizing bs with
  | nil => cases bs <;> simp [filters]
  | cons f fs ih =>
    simp only [filters_cons_eq_ok_iff, filter?_eq_ok_none_iff, filter?_eq_ok_some_iff, ih]
    by_cases h : f.contributes params = true
    · simp [h, List.forall₂_cons_left_iff]
    · simp [h]

/-- Parameters compile to the conjunction of the predicates of their filters. -/
theorem compile_eq_ok_iff {registry : Registry} {fs : List Field} {params : Params}
    {p : Predicate} :
    compile registry fs params = .ok p ↔
      ∃ bs ps, List.Forall₂ (Gives registry params) (fs.filter (contributes params)) bs ∧
        List.Forall₂ (fun b p => BoundFilter.predicate b = .ok p) bs ps ∧
        p = Predicate.allOf ps := by
  simp only [← filters_eq_ok_iff, ← mapM_eq_ok_iff, ← predicates_eq_mapM]
  rw [compile]
  cases filters registry params fs with
  | error e => simp
  | ok bs => cases h : predicates bs <;> simp [h, Except.map, eq_comm]

end Field

end FilterQuery
