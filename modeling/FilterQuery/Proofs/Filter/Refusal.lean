import FilterQuery.Proofs.Filter.Soundness

namespace FilterQuery

/-!
# Refused filter values

A filter value is refused for one of its parts, and parameters for one of their values: the
first of each counts, in the order in which they are written and declared.

* `Field.Refuses` — a part that a field refuses, and the error;
* `Field.Fault` — the part that parameters are refused for;
* `Field.compile_eq_error_iff` — parameters compile unless they have a fault, which gives
  the error;
* `Field.compile_never_internal` — the error is always one of a literal.
-/

/-! ### Parts -/

/-- A kind of filter refuses a part of a filter value: its literal is not `null`, and cannot
    be read. -/
def FilterKind.Refuses (k : FilterKind) (key : String) (part : List Char) (e : FilterError) :
    Prop :=
  Alternative.isNullLiteral (Alternative.literalOf part) = false ∧
    k.readLiteral key (Alternative.literalOf part) = .error e

theorem FilterKind.refuses_iff {k : FilterKind} {key : String} {part : List Char}
    {e : FilterError} :
    k.Refuses key part e ↔
      (Alternative.ofLiteral (Alternative.negates part) (Alternative.literalOf part)).parse
        (k.readLiteral key) = .error e := by
  rw [Refuses, Alternative.parse, Alternative.isNull_ofLiteral]
  cases Alternative.isNullLiteral (Alternative.literalOf part) with
  | true => simp
  | false =>
    cases h : k.readLiteral key (Alternative.literalOf part) <;> simp [Except.map, h]

/-- A kind of filter refuses a part with one of its errors for the literal. -/
theorem FilterKind.Refuses.reports {k : FilterKind} {key : String} {part : List Char}
    {e : FilterError} (h : k.Refuses key part e) :
    k.Reports key (Alternative.literalOf part) e :=
  reports_of_readLiteral h.2

/-- A value is refused for the first of its alternatives that cannot be read. -/
theorem FieldFilter.read_eq_error_iff_split {k : FilterKind} {key : String} {raw : Option String}
    {e : FilterError} :
    read k key raw = .error e ↔
      ∃ a, IsFirst (fun a => ∃ e, Alternative.parse (k.readLiteral key) a = .error e)
        (Alternative.split raw) a ∧ a.parse (k.readLiteral key) = .error e := by
  rw [← mapM_eq_error_iff, ← Alternative.parseAll_eq_mapM, read]
  cases Alternative.split raw with
  | nil => simp [Alternative.parseAll]
  | cons a as =>
    cases h : Alternative.parseAll (k.readLiteral key) (a :: as) <;> simp [h, Except.map]

/-- A value is refused for the first of its parts that is. -/
theorem FieldFilter.read_eq_error_iff {k : FilterKind} {key raw : String} {e : FilterError} :
    read k key (some raw) = .error e ↔
      ∃ part, IsFirst (fun part => ∃ e, k.Refuses key part e) (Alternative.parts raw) part ∧
        k.Refuses key part e := by
  rw [read_eq_error_iff_split, ← mapM_eq_error_iff, Alternative.split_eq_map_parts, List.mapM_map,
    mapM_eq_error_iff]
  simp only [FilterKind.refuses_iff, Function.comp_apply]

namespace FieldFilter

variable {k : FilterKind} {key raw : String}

/-- Where it is known which parts are refused, and what is reported of each, a value is refused for
    the first of them. -/
theorem read_eq_error_iff_of_refuses {IsStray : List Char → Prop} {report : List Char → FilterError}
    (h : ∀ part e, k.Refuses key part e ↔ IsStray part ∧ e = report part) {e : FilterError} :
    read k key (some raw) = .error e ↔
      ∃ part, IsFirst IsStray (Alternative.parts raw) part ∧ e = report part := by
  have hstray : (fun part => ∃ e, k.Refuses key part e) = IsStray := by
    funext part
    simp [h]
  rw [read_eq_error_iff, hstray]
  simp only [h]
  constructor
  · rintro ⟨part, hfirst, -, he⟩
    exact ⟨part, hfirst, he⟩
  · rintro ⟨part, hfirst, he⟩
    exact ⟨part, hfirst, hfirst.holds, he⟩

/-- A value is read where none of its parts is refused. -/
theorem exists_read_iff_of_refuses {IsStray : List Char → Prop}
    {report : List Char → FilterError}
    (h : ∀ part e, k.Refuses key part e ↔ IsStray part ∧ e = report part) :
    (∃ o, read k key (some raw) = .ok o) ↔ ∀ part ∈ Alternative.parts raw, ¬IsStray part := by
  -- a value is either read or refused, and it is refused where some part is astray
  have herror : (∃ e, read k key (some raw) = .error e) ↔
      ∃ part ∈ Alternative.parts raw, IsStray part := by
    rw [← exists_isFirst_iff]
    simp only [read_eq_error_iff_of_refuses h]
    rw [exists_comm]
    simp
  rw [← isOk_eq_true_iff, ← Bool.not_eq_false, isOk_eq_false_iff, herror]
  simp

end FieldFilter

/-! ### Fields -/

namespace Field

/-- The parts of the value that the parameters hold for a field. -/
def parts (params : Params) (f : Field) : List (List Char) :=
  match params.get? f.key with
  | none => []
  | some raw => Alternative.parts raw

/-- A field refuses a part of its filter value. -/
def Refuses (registry : Registry) (f : Field) (part : List Char) (e : FilterError) : Prop :=
  (f.kind registry).Refuses f.key part e

/-- The parameters hold a part for a field that it refuses. -/
def IsRefused (registry : Registry) (params : Params) (f : Field) : Prop :=
  ∃ part ∈ f.parts params, ∃ e, f.Refuses registry part e

/-- The part that parameters are refused for, with its error: of the first field that
    refuses any, the first that it refuses. -/
structure Fault (registry : Registry) (fs : List Field) (params : Params) (f : Field)
    (part : List Char) (e : FilterError) : Prop where
  first_field : IsFirst (IsRefused registry params) fs f
  first_part : IsFirst (fun part => ∃ e, f.Refuses registry part e) (f.parts params) part
  refuses : f.Refuses registry part e

variable {registry : Registry} {fs : List Field} {params : Params} {f : Field} {e : FilterError}

/-- The value of a field is refused for the first of its parts that is. -/
theorem filter?_eq_error_iff :
    f.filter? registry params = .error e ↔
      ∃ part, IsFirst (fun part => ∃ e, f.Refuses registry part e) (f.parts params) part ∧
        f.Refuses registry part e := by
  unfold filter? parts
  cases params.get? f.key with
  | none => simp [not_isFirst_nil]
  | some raw =>
    have hbound : (FieldFilter.read (f.kind registry) f.key (some raw)).map
          (fun o => o.map (BoundFilter.mk f ·)) = .error e ↔
        FieldFilter.read (f.kind registry) f.key (some raw) = .error e := by
      cases FieldFilter.read (f.kind registry) f.key (some raw) <;> simp [Except.map]
    rw [hbound, FieldFilter.read_eq_error_iff]
    rfl

/-- A field fails to be read exactly where it refuses a part. -/
theorem isRefused_iff :
    f.IsRefused registry params ↔ ∃ e, f.filter? registry params = .error e := by
  simp only [filter?_eq_error_iff, IsRefused, ← exists_isFirst_iff]
  constructor
  · rintro ⟨part, hfirst⟩
    obtain ⟨e, he⟩ := hfirst.holds
    exact ⟨e, part, hfirst, he⟩
  · rintro ⟨e, part, hfirst, -⟩
    exact ⟨part, hfirst⟩

theorem filters_eq_mapM :
    filters registry params fs = (fs.mapM (filter? registry params)).map (List.filterMap id) := by
  induction fs with
  | nil => rfl
  | cons f fs ih =>
    rw [filters, List.mapM_cons, ih]
    cases filter? registry params f with
    | error e => rfl
    | ok o => cases o <;> cases fs.mapM (filter? registry params) <;> rfl

/-- Fields fail to be read exactly where the parameters have a fault. -/
theorem filters_eq_error_iff :
    filters registry params fs = .error e ↔ ∃ f part, Fault registry fs params f part e := by
  have hmap : filters registry params fs = .error e ↔
      fs.mapM (filter? registry params) = .error e := by
    rw [filters_eq_mapM]
    cases fs.mapM (filter? registry params) <;> simp [Except.map]
  have hrefused : (fun f => ∃ e, filter? registry params f = .error e) =
      IsRefused registry params := funext fun f => propext isRefused_iff.symm
  rw [hmap, mapM_eq_error_iff, hrefused]
  simp only [filter?_eq_error_iff]
  constructor
  · rintro ⟨f, hfield, part, hpart, he⟩
    exact ⟨f, part, hfield, hpart, he⟩
  · rintro ⟨f, part, hfault⟩
    exact ⟨f, hfault.first_field, part, hfault.first_part, hfault.refuses⟩

/-- What a field reports of a literal: a member that the registered enumeration of its type
    does not have, or the errors of its category. -/
theorem Refuses.reports {part : List Char} (h : f.Refuses registry part e) :
    (∀ en, registry.lookup? f.type = some en →
      e = .invalidMember f.key en.typeName (Alternative.literalOf part)) ∧
    (registry.lookup? f.type = none →
      f.category.Reports f.key (Alternative.literalOf part) e) := by
  have hreports := FilterKind.Refuses.reports h
  unfold kind at hreports
  cases hlookup : registry.lookup? f.type with
  | some en =>
    rw [hlookup] at hreports
    refine ⟨?_, nofun⟩
    intro en' hen'
    obtain rfl := Option.some.inj hen'
    exact hreports
  | none =>
    rw [hlookup] at hreports
    refine ⟨nofun, fun _ => ?_⟩
    revert hreports
    cases f.category <;> exact id

/-- The literal of a fault stands in the value that the parameters hold for its field. -/
theorem Fault.infix {part : List Char} (h : Fault registry fs params f part e) :
    ∃ raw, params.get? f.key = some raw ∧
      (Alternative.literalOf part).toList <:+: raw.toList := by
  have hpart := h.first_part.mem
  unfold parts at hpart
  cases hraw : params.get? f.key with
  | none =>
    rw [hraw] at hpart
    cases hpart
  | some raw =>
    rw [hraw] at hpart
    exact ⟨raw, rfl, (Alternative.literalOf_suffix part).isInfix.trans
      (Alternative.infix_of_mem_parts hpart)⟩

/-- A field without a registered type reads every text, token, truth value and member of an
    enumeration. -/
theorem exists_read_of_lenient (hlookup : registry.lookup? f.type = none)
    (hcategory : f.category ∈ [.text, .token, .boolean, .enumeration]) (raw : String) :
    ∃ o, FieldFilter.read (f.kind registry) f.key (some raw) = .ok o := by
  cases hread : FieldFilter.read (f.kind registry) f.key (some raw) with
  | ok o => exact ⟨o, rfl⟩
  | error e =>
    obtain ⟨part, -, hrefuses⟩ := FieldFilter.read_eq_error_iff.mp hread
    have hreports := (Refuses.reports (f := f) hrefuses).2 hlookup
    revert hcategory hreports
    cases f.category <;> simp [Category.Reports]

/-- **Errors of compiled parameters.** Parameters fail to compile exactly where they hold a
    part that its field refuses.  The error is the one for the first such part of the first
    such field; it names the field and shows the literal of the part, and its variant is that
    of the registered enumeration or of the category. -/
theorem compile_eq_error_iff (registry : Registry) (fs : List Field) (params : Params) :
    ((∃ e, compile registry fs params = .error e) ↔
      ∃ f ∈ fs, ∃ raw, params.get? f.key = some raw ∧
        ∃ part ∈ Alternative.parts raw, ∃ e, f.Refuses registry part e) ∧
    (∀ e, compile registry fs params = .error e ↔
      ∃ f part, Fault registry fs params f part e) ∧
    (∀ f part e, Fault registry fs params f part e →
      e.field? = some f.key ∧ e.value? = some (Alternative.literalOf part) ∧
      (∃ raw, params.get? f.key = some raw ∧
        (Alternative.literalOf part).toList <:+: raw.toList) ∧
      (∀ en, registry.lookup? f.type = some en →
        e = .invalidMember f.key en.typeName (Alternative.literalOf part)) ∧
      (registry.lookup? f.type = none →
        f.category.Reports f.key (Alternative.literalOf part) e)) ∧
    ∀ f : Field, registry.lookup? f.type = none →
      f.category ∈ [.text, .token, .boolean, .enumeration] →
        ∀ raw, ∃ o, FieldFilter.read (f.kind registry) f.key (some raw) = .ok o := by
  have hfault (e : FilterError) : compile registry fs params = .error e ↔
      ∃ f part, Fault registry fs params f part e :=
    compile_eq_error_iff_filters.trans filters_eq_error_iff
  refine ⟨?_, hfault, ?_, fun f => exists_read_of_lenient⟩
  · constructor
    · rintro ⟨e, he⟩
      obtain ⟨f, part, h⟩ := (hfault e).mp he
      obtain ⟨raw, hraw, -⟩ := h.infix
      have hpart := h.first_part.mem
      unfold parts at hpart
      rw [hraw] at hpart
      exact ⟨f, h.first_field.mem, raw, hraw, part, hpart, e, h.refuses⟩
    · rintro ⟨f, hf, raw, hraw, part, hpart, e, hrefuses⟩
      -- where some field refuses a part there is a first one, with a first part
      have hrefused : f.IsRefused registry params := by
        refine ⟨part, ?_, e, hrefuses⟩
        unfold parts
        rw [hraw]
        exact hpart
      obtain ⟨f', hfirst⟩ := exists_isFirst_iff.mpr ⟨f, hf, hrefused⟩
      obtain ⟨part', hpart'⟩ := exists_isFirst_iff.mpr hfirst.holds
      obtain ⟨e', he'⟩ := hpart'.holds
      exact ⟨e', (hfault e').mpr ⟨f', part', hfirst, hpart', he'⟩⟩
  · intro f part e h
    obtain ⟨hfield, hvalue⟩ := (FilterKind.Refuses.reports h.refuses).field?_value?
    obtain ⟨hregistered, hunregistered⟩ := h.refuses.reports
    exact ⟨hfield, hvalue, h.infix, hregistered, hunregistered⟩

/-- Two wrong fields, the second of them with two wrong parts: the first field is a text and
    refuses nothing, and of a literal only one `not_` is left out. -/
theorem compile_eq_error_iff_number :
    let fs : List Field := [⟨"name", "name", .text, .text⟩, ⟨"id", "pac_id", .number, .integer⟩,
      ⟨"date", "insert_date", .date, .timestamp⟩]
    let params : Params := ⟨[("date", "2024-13-01"), ("id", "5|NOT_not_9|y"), ("name", "lk_")]⟩
    ∃ e, compile .empty fs params = .error e ∧ e.field? = some "id" ∧
      e.value? = some "not_9" ∧ Category.number.Reports "id" "not_9" e := by
  intro fs params
  let f : Field := ⟨"id", "pac_id", .number, .integer⟩
  let part : List Char := "NOT_not_9".toList
  let e : FilterError := .wrongValue "id" "number" "not_9" (some (.integer .invalidDigit))
  obtain ⟨-, hfault, hdescribes, -⟩ := compile_eq_error_iff .empty fs params
  have hliteral : Alternative.literalOf part = "not_9" := by decide
  have hread : FilterKind.number.readLiteral "id" "not_9" = .error e := rfl
  have hrefuses : f.Refuses .empty part e := ⟨by decide, hliteral ▸ hread⟩
  have hpart : IsFirst (fun part => ∃ e, f.Refuses .empty part e) (f.parts params) part := by
    refine ⟨[['5']], [['y']], by decide, ?_, e, hrefuses⟩
    rw [List.forall_mem_singleton]
    rintro ⟨e', -, he'⟩
    cases he'
  have hfield : IsFirst (IsRefused .empty params) fs f := by
    refine ⟨[⟨"name", "name", .text, .text⟩], [⟨"date", "insert_date", .date, .timestamp⟩], rfl, ?_,
      part, hpart.mem, e, hrefuses⟩
    rw [List.forall_mem_singleton]
    rintro ⟨part', -, e', -, he'⟩
    cases he'
  have h : Fault .empty fs params f part e := ⟨hfield, hpart, hrefuses⟩
  obtain ⟨hname, hvalue, -, -, hreports⟩ := hdescribes f part e h
  exact ⟨e, (hfault e).mpr ⟨f, part, h⟩, hname, hvalue, hreports rfl⟩

/-! ### Internal errors -/

/-- **No internal errors.** Compiling never fails with the error of an operator that a field
    does not have.  Filters that were read have alternatives, each without a value exactly
    where it tests for absence, else with an operator and a value that their kind of filter
    supports; so they have predicates on every column. -/
theorem compile_never_internal (registry : Registry) (fs : List Field) (params : Params) :
    (∀ token, compile registry fs params ≠ .error (.unknownOperator token)) ∧
    ∀ bs, filters registry params fs = .ok bs → ∀ b ∈ bs,
      b.filter.values ≠ [] ∧
      (∀ v ∈ b.filter.values, (v.value = none ↔ v.operator = .null) ∧
        ∀ x, v.value = some x → b.filter.kind.Supports v.operator x ∧
          ∀ e negated, ∃ q, b.filter.kind.valuePredicate e v.operator negated x = .ok q) ∧
      ∀ column, ∃ p, b.filter.predicate column = .ok p := by
  refine ⟨?_, ?_⟩
  · intro token h
    obtain ⟨f, part, hfault⟩ := filters_eq_error_iff.mp (compile_eq_error_iff_filters.mp h)
    obtain ⟨hfield, -⟩ := (FilterKind.Refuses.reports hfault.refuses).field?_value?
    cases hfield
  · intro bs hbs b hb
    obtain ⟨hvalues, hsound⟩ := sound_of_filters hbs b hb
    refine ⟨hvalues, ?_, FieldFilter.exists_predicate hsound⟩
    intro v hv
    refine ⟨(hsound v hv).value_eq_none_iff, ?_⟩
    intro x hx
    have hsupports := (hsound v hv).supports x hx
    exact ⟨hsupports, fun e negated => (FilterKind.supports_iff e negated).mp hsupports⟩

/-- Dates with each of their operators, and texts with a pattern: both filters have a
    predicate on the column of the other, too. -/
theorem compile_never_internal_dates :
    let fs : List Field := [⟨"name", "name", .text, .text⟩,
      ⟨"date", "insert_date", .date, .timestamp⟩]
    let params : Params := ⟨[("name", "lk_a*|null||b"),
      ("date", "not_2024-01-01bt2024-02-01|lt2023-01-01|NULL|2022-02-22|gt2025-01-01")]⟩
    ∃ bs, filters .empty params fs = .ok bs ∧ bs.length = 2 ∧
      ∀ b ∈ bs, b.filter.values ≠ [] ∧ ∀ column, ∃ p, b.filter.predicate column = .ok p := by
  intro fs params
  obtain ⟨-, h⟩ := compile_never_internal .empty fs params
  refine ⟨_, rfl, rfl, ?_⟩
  intro b hb
  obtain ⟨hvalues, -, hpredicate⟩ := h _ rfl b hb
  exact ⟨hvalues, hpredicate⟩

end Field

end FilterQuery
