import FilterQuery.Proofs.Filter.Shape
import FilterQuery.Proofs.Filter.Soundness

namespace FilterQuery

/-!
# Compiling field by field

What parameters compile to is put together from what they compile to on parts of the fields,
and only the values of declared keys count.

* `Field.distinct_append`, `Field.distinct_append_of_declared` — the fields of a declaration
  that is continued by new keys, or by keys that it has;
* `Field.filters_append`, `Field.compile_append` — compiling fields one list after the other;
* `Params.ExtendedBy`, `Field.compile_extendedBy` — parameters with further values that no
  field asks for;
* `Field.compile_declared` — all this for declared fields.
-/

/-- Parameters with further keys, each of them a key without a field, or with a value of
    separators only. -/
structure Params.ExtendedBy (fs : List Field) (params params' : Params) : Prop where
  kept : ∀ key value, params.get? key = some value → params'.get? key = some value
  added : ∀ key value, params.get? key = none → params'.get? key = some value →
    (∀ f ∈ fs, f.key ≠ key) ∨ ∀ c ∈ value.toList, c = '|'

namespace Field

/-! ### Declarations -/

theorem distinctFrom_sublist (seen : List String) (fs : List Field) :
    (distinctFrom seen fs).Sublist fs := by
  induction fs generalizing seen with
  | nil => exact .slnil
  | cons f fs ih =>
    rw [distinctFrom]
    split
    · exact (ih seen).cons f
    · exact (ih (f.key :: seen)).cons_cons f

theorem mem_of_mem_distinct {fs : List Field} {f : Field} (h : f ∈ distinct fs) : f ∈ fs :=
  (distinctFrom_sublist [] fs).subset h

/-- A field that is kept has a key that was not seen before. -/
theorem key_not_mem_of_mem_distinctFrom {seen : List String} {fs : List Field} {f : Field}
    (h : f ∈ distinctFrom seen fs) : f.key ∉ seen := by
  induction fs generalizing seen with
  | nil => cases h
  | cons g gs ih =>
    rw [distinctFrom] at h
    split at h
    · exact ih h
    · next hg =>
      obtain rfl | h := List.mem_cons.mp h
      · exact hg
      · exact fun hmem => ih h (List.mem_cons_of_mem g.key hmem)

/-- No two of the first fields of each key have the same key. -/
theorem nodup_keys_distinctFrom (seen : List String) (fs : List Field) :
    ((distinctFrom seen fs).map key).Nodup := by
  induction fs generalizing seen with
  | nil => exact List.nodup_nil
  | cons f fs ih =>
    rw [distinctFrom]
    split
    · exact ih seen
    · rw [List.map_cons, List.nodup_cons]
      refine ⟨?_, ih _⟩
      intro hmem
      obtain ⟨g, hg, hkey⟩ := List.mem_map.mp hmem
      exact key_not_mem_of_mem_distinctFrom hg (hkey ▸ List.mem_cons_self)

/-- Of the keys that were seen, only those of the fields to come count. -/
theorem distinctFrom_congr {seen seen' : List String} {fs : List Field}
    (h : ∀ f ∈ fs, f.key ∈ seen ↔ f.key ∈ seen') :
    distinctFrom seen fs = distinctFrom seen' fs := by
  induction fs generalizing seen seen' with
  | nil => rfl
  | cons f fs ih =>
    rw [List.forall_mem_cons] at h
    have hafter : distinctFrom (f.key :: seen) fs = distinctFrom (f.key :: seen') fs := by
      apply ih
      intro g hg
      rw [List.mem_cons, List.mem_cons, h.2 g hg]
    rw [distinctFrom, distinctFrom, ih h.2, hafter]
    simp only [h.1]

/-- Fields whose keys were all seen are left out. -/
theorem distinctFrom_eq_nil {seen : List String} {fs : List Field}
    (h : ∀ f ∈ fs, f.key ∈ seen) : distinctFrom seen fs = [] := by
  induction fs with
  | nil => rfl
  | cons f fs ih =>
    rw [List.forall_mem_cons] at h
    rw [distinctFrom, if_pos h.1, ih h.2]

/-- After some fields, their keys were seen. -/
theorem distinctFrom_append (seen : List String) (fs gs : List Field) :
    distinctFrom seen (fs ++ gs) =
      distinctFrom seen fs ++ distinctFrom (fs.map key ++ seen) gs := by
  induction fs generalizing seen with
  | nil => rfl
  | cons f fs ih =>
    rw [List.cons_append, distinctFrom, distinctFrom]
    split
    · next hseen =>
      rw [ih]
      congr 1
      apply distinctFrom_congr
      intro g _
      simp only [List.map_cons, List.cons_append, List.mem_cons, List.mem_append]
      constructor
      · exact .inr
      · rintro (hkey | h)
        · exact .inr (hkey ▸ hseen)
        · exact h
    · rw [ih, List.cons_append]
      congr 2
      apply distinctFrom_congr
      intro g _
      simp only [List.map_cons, List.cons_append, List.mem_cons, List.mem_append]
      exact or_left_comm

/-- Declarations without a key in common have their own fields. -/
theorem distinct_append {fs gs : List Field} (h : ∀ f ∈ fs, ∀ g ∈ gs, f.key ≠ g.key) :
    distinct (fs ++ gs) = distinct fs ++ distinct gs := by
  rw [distinct, distinctFrom_append, ← distinct]
  congr 1
  apply distinctFrom_congr
  intro g hg
  rw [List.append_nil, List.mem_map]
  constructor
  · rintro ⟨f, hf, hkey⟩
    exact absurd hkey (h f hf g hg)
  · exact nofun

/-- Declaring a key once more adds no field. -/
theorem distinct_append_of_declared {fs gs : List Field} (h : ∀ g ∈ gs, ∃ f ∈ fs, f.key = g.key) :
    distinct (fs ++ gs) = distinct fs := by
  have hgs : distinctFrom (fs.map key ++ []) gs = [] := by
    apply distinctFrom_eq_nil
    intro g hg
    obtain ⟨f, hf, hkey⟩ := h g hg
    rw [List.append_nil]
    exact List.mem_map.mpr ⟨f, hf, hkey⟩
  rw [distinct, distinctFrom_append, hgs, List.append_nil, ← distinct]

/-! ### Fields in two lists -/

variable {registry : Registry} {params params' : Params} {fs gs : List Field}

/-- Fields are read one list after the other, up to the first error. -/
theorem filters_append (registry : Registry) (params : Params) (fs gs : List Field) :
    filters registry params (fs ++ gs) = do
      let bs ← filters registry params fs
      let cs ← filters registry params gs
      return bs ++ cs := by
  induction fs with
  | nil =>
    show _ = filters registry params gs >>= fun cs => pure ([] ++ cs)
    simp
  | cons f fs ih =>
    rw [List.cons_append, filters, filters, ih]
    cases f.filter? registry params with
    | error e => rfl
    | ok o =>
      cases o with
      | none => rfl
      | some b =>
        cases filters registry params fs with
        | error e => rfl
        | ok bs => cases filters registry params gs <;> rfl

/-- Fields compile one list after the other, up to the first error, to the conjunction of what
    they compile to. -/
theorem compile_append (registry : Registry) (params : Params) (fs gs : List Field) :
    compile registry (fs ++ gs) params = do
      let p ← compile registry fs params
      let q ← compile registry gs params
      return .allOf [p, q] := by
  cases hp : compile registry fs params with
  | error e =>
    have hfilters := compile_eq_error_iff_filters.mp hp
    exact compile_eq_error_iff_filters.mpr (by rw [filters_append, hfilters]; rfl)
  | ok p =>
    cases hq : compile registry gs params with
    | error e =>
      obtain ⟨bs, -, hbs, -, -⟩ := compile_eq_ok_iff.mp hp
      have hfilters := filters_eq_ok_iff.mpr hbs
      have hfilters' := compile_eq_error_iff_filters.mp hq
      exact compile_eq_error_iff_filters.mpr (by rw [filters_append, hfilters, hfilters']; rfl)
    | ok q =>
      obtain ⟨ps, hps, rfl⟩ := compile_eq_ok_iff_fragments.mp hp
      obtain ⟨qs, hqs, rfl⟩ := compile_eq_ok_iff_fragments.mp hq
      -- the fragments of both lists stand one after the other
      have hjoined : Predicate.allOf [.allOf ps, .allOf qs] = .allOf (ps ++ qs) :=
        Predicate.allOf_allOf
          (Predicate.conjuncts_flat_of_whole fun p hp => (conjuncts_of_fragments hps p hp).1)
          (Predicate.conjuncts_flat_of_whole fun q hq => (conjuncts_of_fragments hqs q hq).1)
      refine compile_eq_ok_iff_fragments.mpr ⟨ps ++ qs, ?_, hjoined⟩
      rw [List.filter_append]
      exact List.rel_append hps hqs

/-! ### Values that no field asks for -/

/-- Further values give a field the filter that it had. -/
theorem filter?_extendedBy (h : params.ExtendedBy fs params') {f : Field} (hf : f ∈ fs) :
    f.filter? registry params' = f.filter? registry params := by
  cases hvalue : params.get? f.key with
  | some value => rw [filter?, filter?, hvalue, h.kept f.key value hvalue]
  | none =>
    have hnone : f.filter? registry params = .ok none := by rw [filter?, hvalue]
    cases hvalue' : params'.get? f.key with
    | none => rw [hnone, filter?, hvalue']
    | some value =>
      obtain hundeclared | hsilent := h.added f.key value hvalue hvalue'
      · exact absurd rfl (hundeclared f hf)
      · rw [hnone, filter?_eq_ok_none_iff, ← Bool.not_eq_true, contributes_iff, hvalue']
        rintro ⟨c, hc, hne⟩
        exact hne (hsilent c hc)

theorem compile_extendedBy (h : params.ExtendedBy fs params') (hgs : ∀ g ∈ gs, g ∈ fs) :
    compile registry gs params' = compile registry gs params := by
  have hfilters : filters registry params' gs = filters registry params gs := by
    induction gs with
    | nil => rfl
    | cons g gs ih =>
      rw [List.forall_mem_cons] at hgs
      rw [filters, filters, ih hgs.2, filter?_extendedBy h hgs.1]
  rw [compile, compile, hfilters]

/-! ### Declared fields -/

/-- **Declared fields compile one by one.** Where a declaration is cut between two keys that
    differ, parameters compile to the conjunction of what they compile to on both parts, and an
    error of the first part comes before one of the second.  Parameters that are extended by
    keys without a field, or by values of separators only, compile to the same; so do all
    parameters where the declaration goes on with keys that it has. -/
theorem compile_declared (registry : Registry) (fs gs : List Field) (params : Params) :
    ((∀ f ∈ fs, ∀ g ∈ gs, f.key ≠ g.key) →
      (∀ p q, compile registry (distinct fs) params = .ok p →
        compile registry (distinct gs) params = .ok q →
          compile registry (distinct (fs ++ gs)) params = .ok (.allOf [p, q])) ∧
      (∀ e, compile registry (distinct fs) params = .error e →
        compile registry (distinct (fs ++ gs)) params = .error e) ∧
      ∀ p e, compile registry (distinct fs) params = .ok p →
        compile registry (distinct gs) params = .error e →
          compile registry (distinct (fs ++ gs)) params = .error e) ∧
    (∀ params', params.ExtendedBy fs params' →
      compile registry (distinct fs) params' = compile registry (distinct fs) params) ∧
    ((∀ g ∈ gs, ∃ f ∈ fs, f.key = g.key) →
      compile registry (distinct (fs ++ gs)) params = compile registry (distinct fs) params) := by
  refine ⟨?_, ?_, ?_⟩
  · intro hkeys
    rw [distinct_append hkeys, compile_append]
    refine ⟨?_, ?_, ?_⟩
    · intro p q hp hq
      rw [hp, hq]
      rfl
    · intro e he
      rw [he]
      rfl
    · intro p e hp he
      rw [hp, he]
      rfl
  · intro params' h
    exact compile_extendedBy h fun f => mem_of_mem_distinct
  · intro h
    rw [distinct_append_of_declared h]

/-- A declaration with a repeated key, cut before a date; a date that cannot be read; values of
    separators and of unknown keys; and a key that is declared once more as a number. -/
theorem compile_declared_cut :
    let fs : List Field := [⟨"name", "name", .text, .text⟩, ⟨"id", "pac_id", .number, .integer⟩,
      ⟨"name", "other", .token, .text⟩]
    let gs : List Field := [⟨"date", "insert_date", .date, .timestamp⟩]
    let again : List Field := [⟨"name", "size", .number, .integer⟩]
    let params : Params := ⟨[("date", "2024-01-01"), ("name", "a|b"), ("id", "not_1|not_2")]⟩
    let params' : Params := ⟨[("date", "2024-01-01"), ("name", "a|b"), ("size", "x")]⟩
    let wrong : Params := ⟨[("date", "lt"), ("name", "a")]⟩
    (∃ p q, compile .empty (distinct fs) params = .ok p ∧
      compile .empty (distinct gs) params = .ok q ∧
      compile .empty (distinct (fs ++ gs)) params = .ok (.allOf [p, q])) ∧
    (∃ e, compile .empty (distinct gs) wrong = .error e ∧
      compile .empty (distinct (fs ++ gs)) wrong = .error e) ∧
    compile .empty (distinct fs) (params'.insert "id" "||") =
      compile .empty (distinct fs) params' ∧
    compile .empty (distinct (fs ++ again)) params = compile .empty (distinct fs) params := by
  intro fs gs again params params' wrong
  have hkeys : ∀ f ∈ fs, ∀ g ∈ gs, f.key ≠ g.key := by decide
  obtain ⟨hboth, -, -⟩ := (compile_declared .empty fs gs params).1 hkeys
  obtain ⟨-, -, hsecond⟩ := (compile_declared .empty fs gs wrong).1 hkeys
  obtain ⟨-, hextended, -⟩ := compile_declared .empty fs [] params'
  obtain ⟨-, -, hagain⟩ := compile_declared .empty fs again params
  have hextends : params'.ExtendedBy fs (params'.insert "id" "||") := by
    have hid : params'.get? "id" = none := by decide
    constructor
    · intro key value hvalue
      rw [Params.get?_insert, if_neg, hvalue]
      rintro rfl
      rw [hid] at hvalue
      cases hvalue
    · intro key value hnone hvalue
      rw [Params.get?_insert] at hvalue
      split at hvalue
      · obtain rfl := Option.some.inj hvalue
        exact .inr (by simp)
      · rw [hnone] at hvalue
        cases hvalue
  have hok : (compile .empty (distinct fs) params).isOk = true ∧
      (compile .empty (distinct gs) params).isOk = true ∧
      (compile .empty (distinct fs) wrong).isOk = true ∧
      (compile .empty (distinct gs) wrong).isOk = false := by decide +kernel
  simp only [isOk_eq_true_iff, isOk_eq_false_iff] at hok
  obtain ⟨⟨p, hp⟩, ⟨q, hq⟩, ⟨p', hp'⟩, e, he⟩ := hok
  refine ⟨⟨p, q, hp, hq, hboth p q hp hq⟩, ⟨e, he, hsecond p' e hp' he⟩, ?_, ?_⟩
  · exact hextended _ hextends
  · exact hagain (by decide)

end Field

end FilterQuery
