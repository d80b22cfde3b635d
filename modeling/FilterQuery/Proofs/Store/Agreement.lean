import FilterQuery.Proofs.Store.Pages

namespace FilterQuery

/-!
# Agreement of lookups

A page is asked for with the same parameters as a count, but only the parameters that are no
reserved ones reach its filters.  No field of access control has a reserved key, so both have
the same filters, and fail on them in the same way.

* `Access.isReserved_key` — the keys of fields are not reserved;
* `Field.compile_filterParams` — reserved parameters are no filters;
* `Store.findPage_eq_filterError_iff` — when a page is refused for its filters;
* `Store.lookups_agree` — compiling, counting and paging agree on filters.
-/

/-- No entity is filtered by a reserved parameter. -/
theorem Access.isReserved_key (kind : EntityKind) :
    ∀ f ∈ kind.model.entity.distinctFields, PageRequest.isReserved f.key = false := by
  have hkeys : ∀ kind ∈ EntityKind.every, ∀ f ∈ kind.model.entity.distinctFields,
      PageRequest.isReserved f.key = false := by decide +kernel
  exact hkeys kind kind.mem_every

section Reserved

variable {registry : Registry} {fs : List Field}
  (hfree : ∀ f ∈ fs, PageRequest.isReserved f.key = false)
include hfree

/-- Fields without reserved keys compile to the same, whatever reserved parameters are left
    out. -/
theorem Field.compile_erase_reserved {keys : List String} (hkeys : keys ⊆ PageRequest.reservedKeys)
    (params : Params) :
    compile registry fs (keys.foldl Params.erase params) = compile registry fs params := by
  apply compile_congr
  intro f hf
  have hkey : f.key ∉ keys := by
    intro hmem
    have hreserved : PageRequest.isReserved f.key = true := decide_eq_true (hkeys hmem)
    rw [hfree f hf] at hreserved
    cases hreserved
  rw [Params.get?_foldl_erase, if_neg hkey]

/-- The filters of a page are those of all its parameters. -/
theorem Field.compile_filterParams (params : Params) :
    compile registry fs (PageRequest.filterParams params) = compile registry fs params :=
  compile_erase_reserved hfree (List.Subset.refl _) params

end Reserved

namespace Store

variable {s : Store} {order : RowOrder} {registry : Registry} {m : Model} {params : Params}

/-- A count fails on its filters exactly where they do not compile. -/
theorem countMatching_eq_filterError_iff {e : FilterError} :
    s.countMatching registry m params = .error (.filter e) ↔
      Field.compile registry m.entity.distinctFields params = .error e := by
  rw [countMatching, bind_eq_error_iff, mapError_eq_error_iff]
  simp [mapError_eq_error_iff]

/-- A count that compiles is that of the rows that its filters find. -/
theorem countMatching_eq_count {p : Predicate}
    (hp : Field.compile registry m.entity.distinctFields params = .ok p) :
    s.countMatching registry m params = (s.count m.entity p).mapError .database := by
  rw [countMatching, hp]
  rfl

/-- A page fails on its filters exactly where its request is accepted and they do not
    compile. -/
theorem findPage_eq_filterError_iff {e : FilterError} :
    s.findPage order registry m params = .error (.filter e) ↔
      (∃ request, PageRequest.ofParams params = .ok request) ∧
        Field.compile registry m.entity.distinctFields (PageRequest.filterParams params) =
          .error e := by
  -- every other step has errors of its own
  have hsteps : s.findPage order registry m params = .error (.filter e) ↔
      ∃ request filters, PageRequest.ofParams params = .ok (request, filters) ∧
        Field.compile registry m.entity.distinctFields filters = .error e := by
    simp [findPage, bind_eq_error_iff, map_eq_error_iff, mapError_eq_error_iff,
      mapError_eq_ok_iff]
  rw [hsteps]
  constructor
  · rintro ⟨request, filters, hsplits, hcompile⟩
    obtain rfl := PageRequest.filters_eq_of_ofParams hsplits
    exact ⟨⟨_, hsplits⟩, hcompile⟩
  · rintro ⟨⟨⟨request, filters⟩, hsplits⟩, hcompile⟩
    obtain rfl := PageRequest.filters_eq_of_ofParams hsplits
    exact ⟨request, _, hsplits, hcompile⟩

/-- **Compiling, counting and paging agree on filters.** Reserved parameters do not change what
    parameters compile to.  A page has the number of the rows that its parameters select for its
    total.  A count is refused for its filters exactly where they do not compile, and a page
    exactly where its reserved parameters are accepted besides; each has the error of the
    filters for its own. -/
theorem lookups_agree (s : Store) (order : RowOrder) (registry : Registry)
    (kind : Access.EntityKind) (params : Params) :
    (∀ keys ⊆ PageRequest.reservedKeys,
      Field.compile registry kind.model.entity.distinctFields (keys.foldl Params.erase params) =
        Field.compile registry kind.model.entity.distinctFields params) ∧
    (∀ page, s.findPage order registry kind.model params = .ok page →
      s.countMatching registry kind.model params = .ok page.total) ∧
    (∀ e, s.countMatching registry kind.model params = .error (.filter e) ↔
      Field.compile registry kind.model.entity.distinctFields params = .error e) ∧
    (∀ e, s.findPage order registry kind.model params = .error (.filter e) ↔
      (∃ request, PageRequest.ofParams params = .ok request) ∧
        Field.compile registry kind.model.entity.distinctFields params = .error e) := by
  have hfree := Access.isReserved_key kind
  refine ⟨fun keys hkeys => Field.compile_erase_reserved hfree hkeys params, ?_, ?_, ?_⟩
  · intro page hpage
    obtain ⟨a, -, found, -, hfound, htotal, -⟩ := exists_accepted_of_findPage hpage
    have hcompiles := a.compiles
    rw [PageRequest.filters_eq_of_ofParams a.splits, Field.compile_filterParams hfree]
      at hcompiles
    rw [countMatching_eq_count hcompiles, count, hfound, htotal]
    rfl
  · exact fun e => countMatching_eq_filterError_iff
  · intro e
    rw [findPage_eq_filterError_iff, Field.compile_filterParams hfree]

/-- A page of one user has the count of its parameters for its total, and a page with a number
    for an identifier is refused with the error of the count. -/
theorem lookups_agree_users :
    let s : Store := ofUsers [("00000000-0000-0000-0000-000000000001", "ann"), ("none", "dan")]
    let m : Model := Access.EntityKind.user.model
    let chosen : Params := ⟨[("login", "ann"), ("page", "0"), ("sort", "desc")]⟩
    let refused : Params := ⟨[("id", "7"), ("count", "5")]⟩
    (∃ page, s.findPage .insertion .empty m chosen = .ok page ∧ page.total = 1 ∧
      s.countMatching .empty m chosen = .ok 1) ∧
    ∃ e, s.countMatching .empty m refused = .error (.filter e) ∧
      s.findPage .insertion .empty m refused = .error (.filter e) := by
  intro s m chosen refused
  obtain ⟨-, htotal, -, -⟩ := lookups_agree s .insertion .empty .user chosen
  obtain ⟨-, -, hcount, hpage⟩ := lookups_agree s .insertion .empty .user refused
  constructor
  · have hfirst : (s.findPage .insertion .empty m chosen).isOk = true := by decide +kernel
    have hone : s.countMatching .empty m chosen = .ok 1 := by decide +kernel
    obtain ⟨page, hpage⟩ := isOk_eq_true_iff.mp hfirst
    have hsame := (htotal page hpage).symm.trans hone
    exact ⟨page, hpage, Except.ok.inj hsame, hone⟩
  · have hrefused : (Field.compile .empty m.entity.distinctFields refused).isOk = false := by
      decide +kernel
    obtain ⟨e, he⟩ := isOk_eq_false_iff.mp hrefused
    exact ⟨e, (hcount e).mpr he, (hpage e).mpr ⟨⟨_, rfl⟩, he⟩⟩

end Store

end FilterQuery
