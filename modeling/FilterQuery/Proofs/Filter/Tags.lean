import FilterQuery.Proofs.Filter.Meaning
import FilterQuery.Proofs.Sql.Blank

namespace FilterQuery

/-!
# What the texts of filters depend on

A compiled predicate has a text that depends on the fields that contribute and on the
operators and signs of their alternatives.  The literals of the alternatives are seen in
its values only.

* `FieldFilter.tags`, `Field.tags` — operators and signs, alternative by alternative;
* `FieldFilter.blank_predicate` — filters with the same tags differ in their values only;
* `Field.blank_compile` — so do compiled predicates.
-/

/-! ### Tags -/

/-- The operator and the sign of an alternative. -/
def Parsed.tag {α : Type} (v : Parsed α) : Operator × Bool := (v.operator, v.negated)

/-- The operators and the signs of the alternatives of a filter. -/
def FieldFilter.tags (f : FieldFilter) : List (Operator × Bool) := f.values.map Parsed.tag

/-- The operators and the signs of the alternatives that the parameters hold for a field. -/
def Field.tags (registry : Registry) (params : Params) (f : Field) : List (Operator × Bool) :=
  match f.filter? registry params with
  | .ok (some b) => b.filter.tags
  | _ => []

/-! ### Alternatives -/

/-- Values that are compared with one operator and one sign give predicates that differ in
    these values only. -/
theorem FilterKind.blank_valuePredicate {k : FilterKind} {e : Expr} {op : Operator}
    {negated : Bool} {v v' : k.Operand} {q q' : Predicate}
    (hq : k.valuePredicate e op negated v = .ok q)
    (hq' : k.valuePredicate e op negated v' = .ok q') : q.blank = q'.blank := by
  cases k with
  | date =>
    -- an operator has one date or two of them
    cases op with
    | equals | inferior | superior =>
      cases v with
      | «at» t =>
        cases v' with
        | «at» t' =>
          cases hq
          cases hq'
          cases negated <;> rfl
        | range => cases hq'
      | range => cases hq
    | between =>
      cases v with
      | «at» t => cases hq
      | range =>
        cases v' with
        | «at» t' => cases hq'
        | range =>
          cases hq
          cases hq'
          rfl
    | null | like => cases hq
  | text =>
    cases op with
    | equals | like => cases hq; cases hq'; rfl
    | _ => cases hq
  | _ =>
    cases op with
    | equals => cases hq; cases hq'; rfl
    | _ => cases hq

namespace Parsed

/-- Alternatives with one tag give predicates that differ in their values only. -/
theorem blank_predicate {k : FilterKind} {e : Expr} {column : String} {v v' : Parsed k.Operand}
    {q q' : Predicate} (htag : v.tag = v'.tag)
    (hq : v.predicate (k.valuePredicate e) column = .ok q)
    (hq' : v'.predicate (k.valuePredicate e) column = .ok q') : q.blank = q'.blank := by
  obtain ⟨op, negated, x⟩ := v
  obtain ⟨op', negated', x'⟩ := v'
  obtain ⟨rfl, rfl⟩ := Prod.mk.inj htag
  by_cases hop : op = .null
  · subst hop
    cases hq
    cases hq'
    rfl
  · -- any other operator compares a value
    cases x with
    | none =>
      rw [predicate_none hop] at hq
      cases hq
    | some x =>
      cases x' with
      | none =>
        rw [predicate_none hop] at hq'
        cases hq'
      | some x' =>
        rw [predicate_some hop] at hq hq'
        exact FilterKind.blank_valuePredicate hq hq'

/-- So do several alternatives with the same tags. -/
theorem blank_predicates {k : FilterKind} {e : Expr} {column : String}
    {vs vs' : List (Parsed k.Operand)} {qs qs' : List Predicate}
    (htags : vs.map tag = vs'.map tag)
    (hqs : List.Forall₂ (fun v q => predicate (k.valuePredicate e) column v = .ok q) vs qs)
    (hqs' : List.Forall₂ (fun v q => predicate (k.valuePredicate e) column v = .ok q) vs' qs') :
    qs.map Predicate.blank = qs'.map Predicate.blank := by
  -- both lists are gone through side by side, as far as their tags go
  induction hqs generalizing vs' qs' with
  | nil =>
    obtain rfl : vs' = [] := List.map_eq_nil_iff.mp htags.symm
    cases hqs'
    rfl
  | cons hq _ ih =>
    cases hqs' with
    | nil => cases htags
    | cons hq' hrest' =>
      obtain ⟨htag, hrest⟩ := List.cons.inj htags
      rw [List.map_cons, List.map_cons, blank_predicate htag hq hq', ih hrest hrest']

/-- Numbers that are read as equalities all have values. -/
theorem length_integers {key : String} {parts : List (List Char)} {vs : List (Parsed Int)}
    (hread : List.Forall₂ (IsOf .number key) parts vs) (hequal : ∀ v ∈ vs, v.operator = .equals) :
    (vs.filterMap fun v => v.value.map Value.integer).length = vs.length := by
  induction hread with
  | nil => rfl
  | cons hv _ ih =>
    rw [List.forall_mem_cons] at hequal
    have hrest := ih hequal.2
    rcases isOf_number_iff.mp hv with ⟨_, rfl⟩ | ⟨_, n, _, rfl⟩
    · have hnull := hequal.1
      cases hnull
    · simpa using hrest

/-- Whether all alternatives have one operator and one sign depends on their tags. -/
theorem forall_tag_congr {α : Type} {vs vs' : List (Parsed α)} (htags : vs.map tag = vs'.map tag)
    (op : Operator) (negated : Bool) :
    (∀ v ∈ vs, v.operator = op ∧ v.negated = negated) ↔
      ∀ v ∈ vs', v.operator = op ∧ v.negated = negated := by
  have htag (us : List (Parsed α)) : (∀ v ∈ us, v.operator = op ∧ v.negated = negated) ↔
      ∀ t ∈ us.map tag, t.1 = op ∧ t.2 = negated := by
    rw [List.forall_mem_map]
    rfl
  rw [htag vs, htag vs', htags]

/-- Whether numbers are gathered in a list depends on their tags, and so does the list but for
    its members. -/
theorem blank_membership? {key column : String} {parts parts' : List (List Char)}
    {vs vs' : List (Parsed Int)} (htags : vs.map tag = vs'.map tag)
    (hread : List.Forall₂ (IsOf .number key) parts vs)
    (hread' : List.Forall₂ (IsOf .number key) parts' vs') :
    (membership? column vs).map Predicate.blank = (membership? column vs').map Predicate.blank := by
  have hlength : vs.length = vs'.length := by
    have := congrArg List.length htags
    rwa [List.length_map, List.length_map] at this
  cases vs with
  | nil =>
    obtain rfl : vs' = [] := List.length_eq_zero_iff.mp hlength.symm
    rfl
  | cons v vs =>
    cases vs' with
    | nil => cases hlength
    | cons v' vs' =>
      have hnegated : v.negated = v'.negated := congrArg Prod.snd (List.cons.inj htags).1
      have hsame := forall_tag_congr htags .equals v.negated
      rw [membership?_eq, membership?_eq, ← hnegated]
      by_cases h : ∀ w ∈ v :: vs, w.operator = .equals ∧ w.negated = v.negated
      · -- lists of as many values as there are alternatives
        have hvalues := length_integers hread fun w hw => (h w hw).1
        have hvalues' := length_integers hread' fun w hw => (hsame.mp h w hw).1
        rw [if_pos h, if_pos (hsame.mp h), Option.map_some, Option.map_some, Predicate.blank,
          Predicate.blank, Condition.blank, Condition.blank, List.map_const', List.map_const',
          hvalues, hvalues', hlength]
      · rw [if_neg h, if_neg fun h' => h (hsame.mpr h')]

end Parsed

/-! ### Filters -/

/-- The predicate of several alternatives is the disjunction of theirs. -/
theorem Parsed.anyOf_eq_ok_iff {k : FilterKind} {e : Expr} {column : String}
    {vs : List (Parsed k.Operand)} {p : Predicate} :
    Parsed.anyOf (k.valuePredicate e) column vs = .ok p ↔
      ∃ qs, List.Forall₂ (fun v q => Parsed.predicate (k.valuePredicate e) column v = .ok q) vs qs ∧
        p = Predicate.anyOf qs := by
  simp only [← mapM_eq_ok_iff, ← predicates_eq_mapM]
  rw [anyOf]
  cases predicates (k.valuePredicate e) column vs <;> simp [Except.map, eq_comm]

/-- The alternatives of one field with the same tags give predicates that differ in their
    values only. -/
theorem FieldFilter.blank_predicate {k : FilterKind} {key column : String}
    {parts parts' : List (List Char)} {vs vs' : List (Parsed k.Operand)} {p p' : Predicate}
    (htags : vs.map Parsed.tag = vs'.map Parsed.tag)
    (hread : List.Forall₂ (Parsed.IsOf k key) parts vs)
    (hread' : List.Forall₂ (Parsed.IsOf k key) parts' vs')
    (hp : predicate ⟨k, key, vs⟩ column = .ok p) (hp' : predicate ⟨k, key, vs'⟩ column = .ok p') :
    p.blank = p'.blank := by
  -- both filters are lists of numbers, or none of them is
  have hmember : (membership? column ⟨k, key, vs⟩).map Predicate.blank =
      (membership? column ⟨k, key, vs'⟩).map Predicate.blank := by
    by_cases hk : k = .number
    · subst hk
      exact Parsed.blank_membership? htags hread hread'
    · have hnone (us : List (Parsed k.Operand)) : membership? column ⟨k, key, us⟩ = none := by
        cases k <;> first | rfl | exact absurd rfl hk
      rw [hnone, hnone]
  unfold predicate at hp hp'
  cases hm : membership? column ⟨k, key, vs⟩ with
  | some q =>
    cases hm' : membership? column ⟨k, key, vs'⟩ with
    | some q' =>
      rw [hm] at hp
      rw [hm'] at hp'
      rw [hm, hm'] at hmember
      obtain rfl := Except.ok.inj hp
      obtain rfl := Except.ok.inj hp'
      exact Option.some.inj hmember
    | none =>
      rw [hm, hm'] at hmember
      cases hmember
  | none =>
    cases hm' : membership? column ⟨k, key, vs'⟩ with
    | some q' =>
      rw [hm, hm'] at hmember
      cases hmember
    | none =>
      rw [hm] at hp
      rw [hm'] at hp'
      obtain ⟨qs, hqs, rfl⟩ := Parsed.anyOf_eq_ok_iff.mp hp
      obtain ⟨qs', hqs', rfl⟩ := Parsed.anyOf_eq_ok_iff.mp hp'
      rw [Predicate.blank_anyOf, Predicate.blank_anyOf, Parsed.blank_predicates htags hqs hqs']

/-! ### Fields -/

namespace Field

variable {registry : Registry} {params params' : Params}

/-- The tags of a field that contributes are those of its filter. -/
theorem tags_eq {f : Field} {b : BoundFilter} (hcontributes : f.contributes params = true)
    (hgives : f.Gives registry params b) : f.tags registry params = b.filter.tags := by
  rw [tags, filter?_eq_ok_some_iff.mpr ⟨hcontributes, hgives⟩]

/-- Filters of one field with the same tags give predicates that differ in their values
    only. -/
theorem Gives.blank_predicate {f : Field} {b b' : BoundFilter} {p p' : Predicate}
    (hgives : f.Gives registry params b) (hgives' : f.Gives registry params' b')
    (htags : b.filter.tags = b'.filter.tags) (hp : b.predicate = .ok p)
    (hp' : b'.predicate = .ok p') : p.blank = p'.blank := by
  obtain ⟨rfl, vs, hfilter, hread⟩ := hgives
  obtain ⟨hfield, vs', hfilter', hread'⟩ := hgives'
  rw [BoundFilter.predicate, hfilter] at hp
  rw [BoundFilter.predicate, hfilter', hfield] at hp'
  rw [hfilter, hfilter'] at htags
  exact FieldFilter.blank_predicate htags hread hread' hp hp'

/-- So do the filters of several fields. -/
theorem blank_predicates {fs : List Field} {bs bs' : List BoundFilter} {ps ps' : List Predicate}
    (htags : ∀ f ∈ fs, f.contributes params = true ∧ f.contributes params' = true ∧
      f.tags registry params = f.tags registry params')
    (hbs : List.Forall₂ (Gives registry params) fs bs)
    (hbs' : List.Forall₂ (Gives registry params') fs bs')
    (hps : List.Forall₂ (fun b p => BoundFilter.predicate b = .ok p) bs ps)
    (hps' : List.Forall₂ (fun b p => BoundFilter.predicate b = .ok p) bs' ps') :
    ps.map Predicate.blank = ps'.map Predicate.blank := by
  -- by induction on the fields; each has one filter and one predicate on both sides
  induction hbs generalizing bs' ps ps' with
  | nil =>
    cases hbs'
    cases hps
    cases hps'
    rfl
  | cons hb _ ih =>
    rw [List.forall_mem_cons] at htags
    obtain ⟨⟨hcontributes, hcontributes', hsame⟩, hrest⟩ := htags
    cases hbs' with
    | cons hb' hbs' =>
      cases hps with
      | cons hp hps =>
        cases hps' with
        | cons hp' hps' =>
          rw [tags_eq hcontributes hb, tags_eq hcontributes' hb'] at hsame
          rw [List.map_cons, List.map_cons, hb.blank_predicate hb' hsame hp hp',
            ih hrest hbs' hps hps']

/-- Parameters to which the same fields contribute, with the same tags, compile to predicates
    that differ in their values only. -/
theorem blank_compile {fs : List Field} {p p' : Predicate}
    (hcontribute : ∀ f ∈ fs, f.contributes params = f.contributes params')
    (htags : ∀ f ∈ fs, f.contributes params = true →
      f.tags registry params = f.tags registry params')
    (hp : compile registry fs params = .ok p) (hp' : compile registry fs params' = .ok p') :
    p.blank = p'.blank := by
  obtain ⟨bs, ps, hbs, hps, rfl⟩ := compile_eq_ok_iff.mp hp
  obtain ⟨bs', ps', hbs', hps', rfl⟩ := compile_eq_ok_iff.mp hp'
  have hfields : fs.filter (contributes params') = fs.filter (contributes params) :=
    List.filter_congr fun f hf => (hcontribute f hf).symm
  rw [hfields] at hbs'
  have hsame : ∀ f ∈ fs.filter (contributes params), f.contributes params = true ∧
      f.contributes params' = true ∧ f.tags registry params = f.tags registry params' := by
    intro f hf
    obtain ⟨hf, hcontributes⟩ := List.mem_filter.mp hf
    exact ⟨hcontributes, (hcontribute f hf) ▸ hcontributes, htags f hf hcontributes⟩
  rw [Predicate.blank_allOf, Predicate.blank_allOf, blank_predicates hsame hbs hbs' hps hps']

end Field

end FilterQuery
