import FilterQuery.Proofs.Filter.Soundness
import FilterQuery.Proofs.Filter.Tags
import FilterQuery.Proofs.Sql.Structure

namespace FilterQuery

/-!
# The shape of compiled predicates

A compiled predicate is made of one fragment for each field that contributes, and binds the
values that the literals of its filter value are read as.

* `Alternative.boundValues`, `Field.boundValues` — the values of a part and of a filter value,
  read from the text;
* `Predicate.IsFragment` — a predicate that is one conjunct, says something and binds given
  values;
* `FieldFilter.isFragment_of_predicate` — the predicate of a field, whether its numbers are
  gathered in a list or not;
* `Field.shape_of_compile` — the conjuncts and the values of a compiled predicate.
-/

/-! ### Values -/

/-- The values that an operand is compared with: two for a range of dates, else one. -/
def FilterKind.boundValues (k : FilterKind) (v : k.Operand) : List Value :=
  match k, v with
  | .text, s | .token, s | .enumeration, s | .strict _, s => [.text s]
  | .number, n => [.integer n]
  | .boolean, b => [.boolean b]
  | .date, .at t => [.timestamp t]
  | .date, .range first last => [.timestamp first, .timestamp last]
  | .identifier, u => [.identifier u]

/-- The values of a part of a filter value: none for `null`, else those that its literal is
    read as. -/
def Alternative.boundValues (k : FilterKind) (key : String) (part : List Char) : List Value :=
  if isNullLiteral (literalOf part) then []
  else
    match k.readLiteral key (literalOf part) with
    | .ok (_, v) => k.boundValues v
    | .error _ => []

/-- The values of the filter value that the parameters hold for a field, in the order in which
    they are written. -/
def Field.boundValues (registry : Registry) (params : Params) (f : Field) : List Value :=
  (Alternative.parts ((params.get? f.key).getD "")).flatMap
    (Alternative.boundValues (f.kind registry) f.key)

/-! ### Alternatives -/

/-- A condition or a negation that says something and binds given values. -/
structure Predicate.IsLeafOf (vs : List Value) (p : Predicate) : Prop where
  leaf : p.IsLeaf
  substantial : p.IsSubstantial
  binds_eq : p.binds = vs

theorem Predicate.IsLeafOf.signed {vs : List Value} {p : Predicate} (h : IsLeafOf vs p)
    (negated : Bool) : IsLeafOf vs (signed negated p) := by
  refine ⟨h.leaf.signed negated, h.substantial.signed negated, ?_⟩
  rw [← h.binds_eq]
  cases negated <;> rfl

/-- The predicate of a value binds it. -/
theorem FilterKind.isLeafOf_valuePredicate {k : FilterKind} {e : Expr} {op : Operator}
    {negated : Bool} {v : k.Operand} {q : Predicate}
    (h : k.valuePredicate e op negated v = .ok q) : q.IsLeafOf (k.boundValues v) := by
  cases k with
  | date =>
    -- an operator has one date or two of them
    cases v with
    | «at» t =>
      cases op with
      | equals =>
        obtain rfl := Except.ok.inj h
        exact ⟨.test, .test rfl, rfl⟩
      | inferior | superior =>
        obtain rfl := Except.ok.inj h
        refine Predicate.IsLeafOf.signed ?_ negated
        exact ⟨.test, .test rfl, rfl⟩
      | between | null | like => cases h
    | range first last =>
      cases op with
      | between =>
        obtain rfl := Except.ok.inj h
        exact ⟨.test, .test rfl, rfl⟩
      | equals | inferior | superior | null | like => cases h
  | text =>
    cases op with
    | equals | like =>
      obtain rfl := Except.ok.inj h
      exact ⟨.test, .test rfl, rfl⟩
    | inferior | superior | between | null => cases h
  | number | boolean | token | enumeration | identifier | strict =>
    cases op with
    | equals =>
      obtain rfl := Except.ok.inj h
      exact ⟨.test, .test rfl, rfl⟩
    | inferior | superior | between | null | like => cases h

namespace Parsed

variable {k : FilterKind} {key column : String}

/-- The predicate of a part binds its values. -/
theorem isLeafOf_predicate {part : List Char} {v : Parsed k.Operand} {q : Predicate}
    (hread : IsOf k key part v)
    (hpredicate : v.predicate (k.valuePredicate (k.subject column)) column = .ok q) :
    q.IsLeafOf (Alternative.boundValues k key part) := by
  rw [Alternative.boundValues]
  obtain ⟨hnull, rfl⟩ | ⟨hnull, op, x, hliteral, rfl⟩ := isOf_iff.mp hread
  · obtain rfl := Except.ok.inj hpredicate
    rw [hnull, if_pos rfl]
    exact ⟨.test, .test rfl, rfl⟩
  · rw [predicate_some (FilterKind.ne_null_of_readLiteral hliteral)] at hpredicate
    rw [hnull, if_neg Bool.false_ne_true, hliteral]
    exact FilterKind.isLeafOf_valuePredicate hpredicate

/-- The predicates of several parts bind their values, one after the other. -/
theorem isLeafOf_predicates {parts : List (List Char)} {vs : List (Parsed k.Operand)}
    {qs : List Predicate} (hread : List.Forall₂ (IsOf k key) parts vs)
    (hqs : List.Forall₂
      (fun v q => Parsed.predicate (k.valuePredicate (k.subject column)) column v = .ok q) vs qs) :
    (∀ q ∈ qs, q.IsLeaf ∧ q.IsSubstantial) ∧
      qs.flatMap Predicate.binds = parts.flatMap (Alternative.boundValues k key) := by
  -- a value stands beside its part, and a predicate beside its value
  induction hread generalizing qs with
  | nil =>
    cases hqs
    exact ⟨nofun, rfl⟩
  | cons hv _ ih =>
    cases hqs with
    | cons hq hqs =>
      obtain ⟨hleaves, hvalues⟩ := ih hqs
      have hleaf := isLeafOf_predicate hv hq
      refine ⟨List.forall_mem_cons.mpr ⟨⟨hleaf.leaf, hleaf.substantial⟩, hleaves⟩, ?_⟩
      rw [List.flatMap_cons, List.flatMap_cons, hleaf.binds_eq, hvalues]

/-- Where an operand is compared with one value, the operands that are read from parts give the
    values of the parts. -/
theorem filterMap_operands {value : k.Operand → Value} (hvalue : ∀ x, k.boundValues x = [value x])
    {parts : List (List Char)} {vs : List (Parsed k.Operand)}
    (hread : List.Forall₂ (IsOf k key) parts vs) :
    (vs.filterMap fun v => v.value.map value) =
      parts.flatMap (Alternative.boundValues k key) := by
  induction hread with
  | nil => rfl
  | cons hv _ ih =>
    rw [List.flatMap_cons, ← ih, Alternative.boundValues]
    obtain ⟨hnull, rfl⟩ | ⟨hnull, op, x, hx, rfl⟩ := isOf_iff.mp hv
    · rw [hnull]
      rfl
    · rw [hnull, hx, if_neg Bool.false_ne_true]
      exact congrArg (· ++ _) (hvalue x).symm

end Parsed

/-! ### Filters -/

/-- A predicate that a conjunction takes as one operand, that says something, and that binds
    given values. -/
structure Predicate.IsFragment (vs : List Value) (p : Predicate) : Prop where
  conjuncts_eq : p.conjuncts = [p]
  substantial : p.IsSubstantial
  binds_eq : p.binds = vs

/-- Membership in a list binds the numbers of all parts. -/
theorem Parsed.isFragment_of_membership? {key column : String} {parts : List (List Char)}
    {vs : List (Parsed Int)} {p : Predicate} (hread : List.Forall₂ (IsOf .number key) parts vs)
    (hmember : membership? column vs = some p) :
    p.IsFragment (parts.flatMap (Alternative.boundValues .number key)) := by
  cases vs with
  | nil => cases hmember
  | cons v vs =>
    rw [membership?_eq] at hmember
    split at hmember
    · next hsame =>
      obtain rfl := Option.some.inj hmember
      have hlength := length_integers hread fun w hw => (hsame w hw).1
      rw [← filterMap_operands (fun _ => rfl) hread]
      refine ⟨rfl, .test ?_, rfl⟩
      -- there are as many numbers as alternatives, so there is one
      show List.isEmpty _ = false
      rw [List.isEmpty_eq_false_iff, ← List.length_pos_iff, hlength]
      exact Nat.succ_pos _
    · cases hmember

/-- The predicate of a field binds the values of all parts, whether it is a list of numbers or
    a disjunction. -/
theorem FieldFilter.isFragment_of_predicate {k : FilterKind} {key column : String}
    {parts : List (List Char)} {vs : List (Parsed k.Operand)} {p : Predicate}
    (hread : List.Forall₂ (Parsed.IsOf k key) parts vs) (hparts : parts ≠ [])
    (hpredicate : predicate ⟨k, key, vs⟩ column = .ok p) :
    p.IsFragment (parts.flatMap (Alternative.boundValues k key)) := by
  rw [predicate] at hpredicate
  cases hmember : membership? column ⟨k, key, vs⟩ with
  | some q =>
    rw [hmember] at hpredicate
    obtain rfl := Except.ok.inj hpredicate
    cases k with
    | number => exact Parsed.isFragment_of_membership? hread hmember
    | text | boolean | date | token | enumeration | identifier | strict => cases hmember
  | none =>
    rw [hmember] at hpredicate
    obtain ⟨qs, hqs, rfl⟩ := Parsed.anyOf_eq_ok_iff.mp hpredicate
    obtain ⟨hqs', hvalues⟩ := Parsed.isLeafOf_predicates hread hqs
    have hleaves : ∀ q ∈ qs, q.IsLeaf := fun q hq => (hqs' q hq).1
    have hne : qs ≠ [] := by
      intro hnil
      have hlength := hread.length_eq.trans hqs.length_eq
      rw [hnil, List.length_nil, List.length_eq_zero_iff] at hlength
      exact hparts hlength
    refine ⟨Predicate.conjuncts_anyOf hleaves, .anyOf hne fun q hq => (hqs' q hq).2, ?_⟩
    rw [Predicate.binds_anyOf hleaves, hvalues]

/-- Where an operand is compared with one value, the filter of a value holds what its parts are read
    as, and its predicate binds the operands among them. -/
theorem FieldFilter.operands_of_read {k : FilterKind} {key raw : String} {f : FieldFilter}
    (value : k.Operand → Value) (hvalue : ∀ x, k.boundValues x = [value x])
    (h : read k key (some raw) = .ok (some f)) :
    ∃ vs, f = ⟨k, key, vs⟩ ∧ List.Forall₂ (Parsed.IsOf k key) (Alternative.parts raw) vs ∧
      ∀ column, ∃ p, f.predicate column = .ok p ∧
        p.binds = vs.filterMap fun v => v.value.map value := by
  obtain ⟨hsome, vs, rfl, hparts⟩ := read_eq_ok_some_iff.mp h
  have hne := (Alternative.parts_ne_nil_iff raw).mpr hsome
  refine ⟨vs, rfl, hparts, fun column => ?_⟩
  obtain ⟨p, hp⟩ := exists_predicate_of_isOf hparts column
  refine ⟨p, hp, ?_⟩
  rw [(isFragment_of_predicate hparts hne hp).binds_eq]
  exact (Parsed.filterMap_operands hvalue hparts).symm

/-! ### Fields -/

namespace Field

variable {registry : Registry} {fs : List Field} {params : Params} {p : Predicate}

/-- The predicate of a field that contributes is a fragment of its own, with the values that
    the parameters hold for it. -/
theorem Gives.isFragment {f : Field} {b : BoundFilter} (hgives : f.Gives registry params b)
    (hcontributes : f.contributes params = true) (hpredicate : b.predicate = .ok p) :
    p.IsFragment (f.boundValues registry params) := by
  obtain ⟨rfl, vs, hfilter, hread⟩ := hgives
  rw [BoundFilter.predicate, hfilter] at hpredicate
  have hparts := (Alternative.parts_ne_nil_iff _).mpr (contributes_iff.mp hcontributes)
  exact FieldFilter.isFragment_of_predicate hread hparts hpredicate

/-- The predicate of the filter that the parameters hold for a field. -/
def HasFragment (registry : Registry) (params : Params) (f : Field) (p : Predicate) : Prop :=
  (∃ b, f.filter? registry params = .ok (some b) ∧ b.predicate = .ok p) ∧
    p.IsFragment (f.boundValues registry params)

/-- The fragments of fields that contribute are the predicates of their filters. -/
theorem forall₂_hasFragment_iff {gs : List Field} {ps : List Predicate}
    (hcontributes : ∀ f ∈ gs, f.contributes params = true) :
    List.Forall₂ (HasFragment registry params) gs ps ↔
      ∃ bs, List.Forall₂ (Gives registry params) gs bs ∧
        List.Forall₂ (fun b p => BoundFilter.predicate b = .ok p) bs ps := by
  constructor
  · intro h
    clear hcontributes
    induction h with
    | nil => exact ⟨[], .nil, .nil⟩
    | cons hp _ ih =>
      obtain ⟨⟨b, hfilter, hpredicate⟩, -⟩ := hp
      obtain ⟨bs, hbs, hps⟩ := ih
      exact ⟨b :: bs, .cons (filter?_eq_ok_some_iff.mp hfilter).2 hbs, .cons hpredicate hps⟩
  · rintro ⟨bs, hbs, hps⟩
    induction hbs generalizing ps with
    | nil =>
      cases hps
      exact .nil
    | cons hb _ ih =>
      cases hps with
      | cons hp hps =>
        rw [List.forall_mem_cons] at hcontributes
        have hfilter := filter?_eq_ok_some_iff.mpr ⟨hcontributes.1, hb⟩
        exact .cons ⟨⟨_, hfilter, hp⟩, hb.isFragment hcontributes.1 hp⟩ (ih hcontributes.2 hps)

/-- A compiled predicate is the conjunction of the fragments of the fields that contribute. -/
theorem compile_eq_ok_iff_fragments :
    compile registry fs params = .ok p ↔
      ∃ ps, List.Forall₂ (HasFragment registry params) (fs.filter (contributes params)) ps ∧
        p = .allOf ps := by
  have hcontributes : ∀ f ∈ fs.filter (contributes params), f.contributes params = true :=
    fun f hf => (List.mem_filter.mp hf).2
  simp only [forall₂_hasFragment_iff hcontributes, compile_eq_ok_iff]
  constructor
  · rintro ⟨bs, ps, hbs, hps, rfl⟩
    exact ⟨ps, ⟨bs, hbs, hps⟩, rfl⟩
  · rintro ⟨ps, ⟨bs, hbs, hps⟩, rfl⟩
    exact ⟨bs, ps, hbs, hps, rfl⟩

/-- Fragments are taken as they are by a conjunction. -/
theorem conjuncts_of_fragments {gs : List Field} {ps : List Predicate}
    (h : List.Forall₂ (HasFragment registry params) gs ps) :
    ∀ p ∈ ps, p.conjuncts = [p] ∧ p.IsSubstantial := by
  intro p hp
  obtain ⟨f, -, -, hfragment⟩ := exists_mem_of_forall₂ h hp
  exact ⟨hfragment.conjuncts_eq, hfragment.substantial⟩

theorem binds_of_fragments {gs : List Field} {ps : List Predicate}
    (h : List.Forall₂ (HasFragment registry params) gs ps) :
    ps.flatMap Predicate.binds = gs.flatMap (boundValues registry params) := by
  induction h with
  | nil => rfl
  | cons hp _ ih => rw [List.flatMap_cons, List.flatMap_cons, hp.2.binds_eq, ih]

/-- **Shape of compiled parameters.** Parameters compile to `always` exactly where no field
    contributes; otherwise nothing in the predicate is constant.  The predicate has one
    conjunct for each field that contributes, in order, which is the predicate of the field's
    filter, and it binds the values of these fields and of their parts in the order in which
    they are declared and written. -/
theorem shape_of_compile (h : compile registry fs params = .ok p) :
    (p = .always ↔ ∀ f ∈ fs, ∀ raw, params.get? f.key = some raw → ∀ c ∈ raw.toList, c = '|') ∧
    (p ≠ .always → p.IsSubstantial) ∧
    List.Forall₂ (HasFragment registry params) (fs.filter (contributes params)) p.conjuncts ∧
    p.binds = (fs.filter (contributes params)).flatMap (boundValues registry params) := by
  obtain ⟨ps, hps, rfl⟩ := compile_eq_ok_iff_fragments.mp h
  have hconjuncts := conjuncts_of_fragments hps
  -- a field contributes nothing exactly where its value holds separators only
  have hsilent : (∀ f ∈ fs, ∀ raw, params.get? f.key = some raw → ∀ c ∈ raw.toList, c = '|') ↔
      fs.filter (contributes params) = [] := by
    rw [List.filter_eq_nil_iff]
    refine forall₂_congr fun f _ => ?_
    rw [contributes_iff]
    cases params.get? f.key <;> simp [Alternative.separator]
  have hnil : fs.filter (contributes params) = [] ↔ ps = [] := by
    rw [← List.length_eq_zero_iff, hps.length_eq, List.length_eq_zero_iff]
  have hsubstantial (hne : ps ≠ []) : (Predicate.allOf ps).IsSubstantial :=
    .allOf hne fun q hq => (hconjuncts q hq).2
  refine ⟨?_, ?_, ?_, ?_⟩
  · rw [hsilent, hnil]
    constructor
    · intro halways
      by_contra hne
      exact (hsubstantial hne).ne_always halways
    · rintro rfl
      rfl
  · intro halways
    apply hsubstantial
    rintro rfl
    exact halways rfl
  · rw [Predicate.conjuncts_allOf fun q hq => (hconjuncts q hq).1]
    exact hps
  · rw [Predicate.binds_allOf, binds_of_fragments hps]

/-- A list of numbers, a value of separators, a range of dates and `null`, and a pattern: three
    conjuncts with six values. -/
theorem shape_of_compile_numbers :
    let fs : List Field := [⟨"id", "pac_id", .number, .integer⟩, ⟨"type", "type", .token, .text⟩,
      ⟨"date", "insert_date", .date, .timestamp⟩, ⟨"name", "name", .text, .text⟩]
    let params : Params := ⟨[("name", "not_lk_a*|NULL|"), ("type", "||"), ("size", "9"),
      ("date", "2024-01-01bt2024-02-01|not_null"), ("id", "7|007|-1")]⟩
    ∃ p, compile .empty fs params = .ok p ∧ p.IsSubstantial ∧ p.conjuncts.length = 3 ∧
      p.binds.length = 6 ∧ p.binds.take 3 = [.integer 7, .integer 7, .integer (-1)] := by
  intro fs params
  have hcompile : compile .empty fs params = .ok _ := rfl
  obtain ⟨halways, hsubstantial, hconjuncts, hbinds⟩ := shape_of_compile hcompile
  refine ⟨_, hcompile, hsubstantial ?_, ?_, ?_, ?_⟩
  · rw [Ne, halways]
    intro h
    have hdigit := h ⟨"id", "pac_id", .number, .integer⟩ List.mem_cons_self _ rfl '7' (by decide)
    cases hdigit
  · rw [← hconjuncts.length_eq]
    decide +kernel
  · rw [hbinds]
    decide +kernel
  · rw [hbinds]
    decide +kernel

end Field

end FilterQuery
