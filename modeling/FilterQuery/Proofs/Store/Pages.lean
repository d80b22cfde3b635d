import FilterQuery.Proofs.Query.Independence
import FilterQuery.Proofs.Query.Page
import FilterQuery.Proofs.Store.Find
import FilterQuery.Store.Lookup

namespace FilterQuery

/-!
# Pages of records

A page of records is a window of all the records that a request selects.  The windows of all
pages make up the selection, if the database keeps to one order of the rows: the statements for
the pages differ in their windows, and rows that are equal in the order asked for could stand
differently in each.

* `Store.Selection` — the rows that a request selects, in its order, and their records;
* `Store.findPage_eq_ok` — what a page holds;
* `Store.findPage_tiles` — the pages of a request make up its selection.
-/

/-! ### Records -/

namespace Record

variable {as : List Attribute}

theorem ofRows_eq_mapM (rows : List Row) :
    ofRows as rows = rows.mapM fun row => ofRow row.cell as := by
  induction rows with
  | nil => rfl
  | cons row rows ih =>
    rw [ofRows, List.mapM_cons, ih]
    cases ofRow row.cell as with
    | error e => rfl
    | ok r => cases rows.mapM fun row => ofRow row.cell as <;> rfl

/-- Rows of which each holds a record hold records. -/
theorem exists_ofRows {rows : List Row}
    (h : ∀ row ∈ rows, ∃ record, ofRow row.cell as = .ok record) :
    ∃ records, ofRows as rows = .ok records := by
  rw [ofRows_eq_mapM]
  exact exists_mapM_eq_ok h

theorem length_ofRows {rows : List Row} {records : List (Record as)}
    (h : ofRows as rows = .ok records) : records.length = rows.length := by
  rw [ofRows_eq_mapM] at h
  exact (mapM_eq_ok_iff.mp h).length_eq.symm

/-- A window of rows holds the window of their records. -/
theorem ofRows_window {rows : List Row} {records : List (Record as)}
    (h : ofRows as rows = .ok records) (skip size : Nat) :
    ofRows as ((rows.drop skip).take size) = .ok ((records.drop skip).take size) := by
  rw [ofRows_eq_mapM, mapM_eq_ok_iff] at h ⊢
  exact List.forall₂_take _ (List.forall₂_drop _ h)

end Record

/-- Parameters are accepted in one way only. -/
theorem AcceptedRequest.eq {registry : Registry} {e : Entity} {params : Params}
    (a b : AcceptedRequest registry e params) : a = b := by
  obtain ⟨page, filters, p, hsplits, hcompiles⟩ := a
  obtain ⟨page', filters', p', hsplits', hcompiles'⟩ := b
  obtain ⟨rfl, rfl⟩ := Prod.mk.inj (Except.ok.inj (hsplits.symm.trans hsplits'))
  obtain rfl := Except.ok.inj (hcompiles.symm.trans hcompiles')
  rfl

/-- The request for another page. -/
def AcceptedRequest.atPage {registry : Registry} {e : Entity} {params : Params}
    (a : AcceptedRequest registry e params) (k : Nat) (hk : (k : Int) ≤ Bounds.signed64.high) :
    AcceptedRequest registry e (params.insert "page" (toString k)) where
  page := { a.page with page := some (k : Int) }
  filters := a.filters
  predicate := a.predicate
  splits := PageRequest.ofParams_insert_page a.splits hk
  compiles := a.compiles

/-- The query of a request, but for its window. -/
def AcceptedRequest.unlimited {registry : Registry} {e : Entity} {params : Params}
    (a : AcceptedRequest registry e params) (column : String) : Query :=
  { Query.empty.filter (.predicate a.predicate) with order := some ⟨column, a.direction.text⟩ }

namespace Store

/-! ### Selections -/

variable {s : Store} {order : RowOrder} {registry : Registry} {m : Model} {params : Params}

/-- What a request selects: the rows of a table or view on which its predicate is true, each
    once and in the order asked for, with the records that they hold. -/
structure Selection (s : Store) (a : AcceptedRequest registry m.entity params) where
  relation : Relation
  column : String
  rows : List Row
  records : List (Record m.attributes)
  relation_eq : s.relation? m.table = some relation
  column_eq : a.column? = some column
  selected : rows.Perm (relation.allRows.filter fun row => a.predicate.truth row = .yes)
  sorted : rows.Pairwise fun x y =>
    a.direction.allows ((x.cell column).order (y.cell column)) = true
  decoded : Record.ofRows m.attributes rows = .ok records

/-- A request that is answered is accepted, and its filters find as many rows as the answer
    says. -/
theorem exists_accepted_of_findPage {page : Page m.attributes}
    (h : s.findPage order registry m params = .ok page) :
    ∃ (a : AcceptedRequest registry m.entity params) (column : String) (found : Found),
      a.column? = some column ∧ s.find m.entity a.predicate "" = .ok found ∧
        page.total = found.rows.length ∧ page.size = a.page.pageSize := by
  -- every stage has succeeded, from the parameters to the records
  obtain ⟨⟨request, filters⟩, hsplits, h⟩ := bind_eq_ok_iff.mp h
  obtain ⟨p, hcompiles, h⟩ := bind_eq_ok_iff.mp h
  obtain ⟨q, hq, h⟩ := bind_eq_ok_iff.mp h
  obtain ⟨total, htotal, h⟩ := bind_eq_ok_iff.mp h
  obtain ⟨rows, -, h⟩ := bind_eq_ok_iff.mp h
  obtain ⟨items, -, h⟩ := bind_eq_ok_iff.mp h
  rw [mapError_eq_ok_iff] at hsplits hcompiles hq htotal
  obtain rfl := Except.ok.inj h
  let a : AcceptedRequest registry m.entity params := ⟨request, filters, p, hsplits, hcompiles⟩
  have hcolumn : ∃ column, a.column? = some column := by
    cases hcolumn : a.column? with
    | some column => exact ⟨column, rfl⟩
    | none =>
      have hnone := Query.resolveColumn?_eq_none_iff.mp hcolumn
      rw [Query.paginate_eq_error_iff.mpr ⟨hnone, rfl⟩] at hq
      cases hq
  have hfound : ∃ found, s.find m.entity p "" = .ok found ∧ total = found.rows.length := by
    rw [count] at htotal
    cases hfind : s.find m.entity p "" with
    | error e => simp [hfind] at htotal
    | ok found =>
      rw [hfind] at htotal
      exact ⟨found, rfl, (Except.ok.inj htotal).symm⟩
  obtain ⟨column, hcolumn⟩ := hcolumn
  obtain ⟨found, hfound, htotal⟩ := hfound
  exact ⟨a, column, found, hcolumn, hfound, htotal, rfl⟩

/-- The answer to an accepted request: the rows that its filters find are put in order, and a
    window of them is read. -/
theorem findPage_eq_ok (horder : order.IsSteady) (a : AcceptedRequest registry m.entity params)
    {column : String} (hcolumn : a.column? = some column) {rows : List Row}
    (hfind : ∀ tail, s.find m.entity a.predicate tail = .ok ⟨rows, .tail⟩)
    {records : List (Record m.attributes)}
    (hrecords : Record.ofRows m.attributes
      (order.arrange s m.entity a.predicate (a.unlimited column) rows) = .ok records) :
    s.findPage order registry m params = .ok
      ⟨(records.drop a.page.offset.toNat).take a.page.rowsPerPage, rows.length,
        a.page.pageIndex, a.page.pageSize⟩ := by
  obtain ⟨q, hq⟩ : ∃ q, a.query .empty = .ok q := ⟨_, a.query_eq hcolumn _⟩
  have hq' := hq
  rw [a.query_eq hcolumn] at hq'
  have hcount : s.count m.entity a.predicate = .ok rows.length := by
    rw [count, hfind]
  have hselect : s.select order m.entity a.predicate q =
      .ok (((order.arrange s m.entity a.predicate (a.unlimited column) rows).drop
        a.page.offset.toNat).take a.page.rowsPerPage) := by
    obtain rfl := Except.ok.inj hq'
    have hsize : ¬a.page.pageSize < 0 := by
      have := a.page.pageSize_bounds
      omega
    rw [select, hfind, ← horder s m.entity a.predicate (a.unlimited column)]
    exact congrArg Except.ok (if_neg hsize)
  have hitems := Record.ofRows_window hrecords a.page.offset.toNat a.page.rowsPerPage
  rw [AcceptedRequest.query] at hq
  simp only [findPage, a.splits, a.compiles, hq, hcount, hselect, hitems, Except.mapError, bind,
    Except.bind, pure, Except.pure]

/-! ### Pages -/

/-- The records on a page of a request, with its other parameters as they are. -/
def itemsAt (s : Store) (order : RowOrder) (registry : Registry) (m : Model) (params : Params)
    (k : Nat) : List (Record m.attributes) :=
  match s.findPage order registry m (params.insert "page" (toString k)) with
  | .ok page => page.items
  | .error _ => []

/-- The records on a page are those of the answer to the request for it. -/
theorem itemsAt_of_findPage {k : Nat} {page : Page m.attributes}
    (h : s.findPage order registry m (params.insert "page" (toString k)) = .ok page) :
    s.itemsAt order registry m params k = page.items := by
  delta itemsAt
  rw [h]

variable {kind : Access.EntityKind}

/-- A request whose rows can all be read has a selection: the rows that it finds, in the order
    of the database. -/
theorem FollowsSchema.exists_selection (h : s.FollowsSchema) (order : RowOrder)
    (a : AcceptedRequest registry kind.model.entity params) {column : String} {r : Relation}
    (hcolumn : a.column? = some column) (hr : s.relation? kind.model.table = some r)
    (hdecode : ∀ row ∈ r.allRows, a.predicate.truth row = .yes →
      ∃ record, Record.ofRow row.cell kind.model.attributes = .ok record) :
    ∃ sel : s.Selection a, sel.relation = r ∧ sel.column = column ∧
      sel.rows = order.arrange s kind.model.entity a.predicate (a.unlimited column)
        (r.matching a.predicate) := by
  have hperm := order.perm s kind.model.entity a.predicate (a.unlimited column)
    (r.matching a.predicate)
  have hmem {row : Row} (hrow : row ∈ r.matching a.predicate) :
      row ∈ r.allRows ∧ a.predicate.truth row = .yes := by
    obtain ⟨hrow, htruth⟩ := List.mem_filter.mp hrow
    exact ⟨hrow, of_decide_eq_true htruth⟩
  obtain ⟨records, hrecords⟩ := Record.exists_ofRows fun row hrow =>
    hdecode row (hmem (hperm.mem_iff.mp hrow)).1 (hmem (hperm.mem_iff.mp hrow)).2
  have hsorted := order.sorted s kind.model.entity a.predicate (a.unlimited column)
    (r.matching a.predicate) ⟨column, a.direction.text⟩ rfl
    fun row hrow => h.isExact hr row (hmem hrow).1 column
  simp only [SortKey.precedes_eq, SortKey.toDirection_mk] at hsorted
  exact ⟨⟨r, column, _, records, hr, hcolumn, hperm, hsorted, hrecords⟩, rfl, rfl, rfl⟩

/-- An accepted request is answered, if its predicate is within the limits of the database and
    all rows that it selects can be read. -/
theorem FollowsSchema.exists_findPage (h : s.FollowsSchema) (horder : order.IsSteady)
    (a : AcceptedRequest registry kind.model.entity params) {column : String} {r : Relation}
    (hcolumn : a.column? = some column) (hr : s.relation? kind.model.table = some r)
    (hheight : a.predicate.height ≤ heightLimit kind.model.table)
    (hbinds : a.predicate.binds.length ≤ Search.largestPlaceholder)
    (hdecode : ∀ row ∈ r.allRows, a.predicate.truth row = .yes →
      ∃ record, Record.ofRow row.cell kind.model.attributes = .ok record) :
    ∃ items, s.findPage order registry kind.model params = .ok
      ⟨items, (r.matching a.predicate).length, a.page.pageIndex, a.page.pageSize⟩ := by
  obtain ⟨sel, -, -, hrows⟩ := h.exists_selection order a hcolumn hr hdecode
  have hfind (tail : String) : s.find kind.model.entity a.predicate tail =
      .ok ⟨r.matching a.predicate, .tail⟩ := by
    rw [h.find_eq a.compiles hr, if_neg (by omega), if_neg (by omega)]
  exact ⟨_, findPage_eq_ok horder a hcolumn hfind (hrows ▸ sel.decoded)⟩

/-- An answer to a request with the same filters counts the same rows, whatever page, size and
    order it asks for. -/
theorem total_eq_of_findPage (a : AcceptedRequest registry m.entity params) {rows : List Row}
    (hfind : ∀ tail, s.find m.entity a.predicate tail = .ok ⟨rows, .tail⟩)
    {params' : Params} (hsame : ∀ key, PageRequest.isReserved key = false →
      params'.get? key = params.get? key) {other : Page m.attributes}
    (hother : s.findPage order registry m params' = .ok other) : other.total = rows.length := by
  obtain ⟨b, -, found, -, hfound, htotal, -⟩ := exists_accepted_of_findPage hother
  have hpredicate : b.predicate = a.predicate := by
    have hcompile : Field.compile registry m.entity.distinctFields b.filters =
        Field.compile registry m.entity.distinctFields a.filters := by
      apply Field.compile_congr
      intro f _
      rw [PageRequest.filters_eq_of_ofParams b.splits, PageRequest.filters_eq_of_ofParams a.splits,
        PageRequest.get?_filterParams, PageRequest.get?_filterParams]
      split
      · rfl
      · next hreserved => exact hsame f.key (by simpa using hreserved)
    rw [a.compiles, b.compiles] at hcompile
    exact Except.ok.inj hcompile
  rw [hpredicate, hfind] at hfound
  obtain rfl := Except.ok.inj hfound
  exact htotal

/-- **Pages make up the selection.** A request that is answered has a selection, if all rows
    that it selects can be read and its table or view is not too large.  Where the database finds
    the rows in the same order for each window, each page holds a window of the selection and all
    pages together hold the selection.  Every page has the number of its rows for its total, which
    does not depend on page, size and order. -/
theorem findPage_tiles (h : s.FollowsSchema) (horder : order.IsSteady)
    {first : Page kind.model.attributes}
    (hfirst : s.findPage order registry kind.model params = .ok first)
    (hlength : ∀ r, s.relation? kind.model.table = some r →
      (r.rows.length : Int) ≤ PageRequest.maximumPage)
    (hdecode : ∀ (a : AcceptedRequest registry kind.model.entity params) (r : Relation),
      s.relation? kind.model.table = some r → ∀ row ∈ r.allRows, a.predicate.truth row = .yes →
        ∃ record, Record.ofRow row.cell kind.model.attributes = .ok record) :
    ∃ (a : AcceptedRequest registry kind.model.entity params) (sel : s.Selection a) (size : Nat),
      first.total = sel.records.length ∧ first.size = size ∧ 1 ≤ size ∧ size ≤ 200 ∧
      (∀ k : Nat, (k : Int) ≤ Bounds.signed64.high →
        s.findPage order registry kind.model (params.insert "page" (toString k)) =
            .ok ⟨s.itemsAt order registry kind.model params k, first.total,
              min (k : Int) PageRequest.maximumPage, first.size⟩ ∧
          (s.itemsAt order registry kind.model params k).length =
            min size (first.total - k * size)) ∧
      (List.range ((first.total + size - 1) / size)).flatMap
        (s.itemsAt order registry kind.model params) = sel.records ∧
      ∀ params' other, (∀ key, PageRequest.isReserved key = false →
          params'.get? key = params.get? key) →
        s.findPage order registry kind.model params' = .ok other → other.total = first.total := by
  obtain ⟨a, column, found, hcolumn, hfound, htotal, hsize⟩ := exists_accepted_of_findPage hfirst
  obtain ⟨r, hr, hfind⟩ := h.find_eq_ok a.compiles hfound
  obtain rfl := Except.ok.inj (hfound.symm.trans (hfind ""))
  obtain ⟨sel, rfl, rfl, hrows⟩ := h.exists_selection order a hcolumn hr (hdecode a r hr)
  have hsize' : a.page.pageSize = (a.page.rowsPerPage : Nat) := by
    have := a.page.pageSize_bounds
    exact (Int.toNat_of_nonneg (by omega)).symm
  have htotal' : first.total = sel.records.length := by
    rw [htotal, Record.length_ofRows sel.decoded, hrows]
    exact (order.perm _ _ _ _ _).length_eq.symm
  have hbound : (sel.records.length : Int) ≤ PageRequest.maximumPage := by
    have hmatching : (sel.relation.matching a.predicate).length ≤ sel.relation.rows.length :=
      (List.length_filter_le _ _).trans_eq (List.length_map _)
    have hrelation := hlength sel.relation hr
    rw [← htotal', htotal]
    show ((sel.relation.matching a.predicate).length : Int) ≤ _
    omega
  -- each page is a window, because the request for it finds the same rows
  have hpage (k : Nat) (hk : (k : Int) ≤ Bounds.signed64.high) :
      s.findPage order registry kind.model (params.insert "page" (toString k)) =
        .ok ⟨windowAt sel.records a.page.rowsPerPage k, first.total,
          min (k : Int) PageRequest.maximumPage, first.size⟩ := by
    have hanswer := findPage_eq_ok horder (a.atPage k hk) hcolumn hfind (hrows ▸ sel.decoded)
    rw [hanswer, htotal, hsize, ← PageRequest.window_offset a.page sel.records hbound k,
      ← PageRequest.pageIndex_some a.page k]
    rfl
  have hitems (k : Nat) (hk : (k : Int) ≤ Bounds.signed64.high) :
      s.itemsAt order registry kind.model params k = windowAt sel.records a.page.rowsPerPage k :=
    itemsAt_of_findPage (hpage k hk)
  have hpos := a.page.rowsPerPage_pos
  refine ⟨a, sel, a.page.rowsPerPage, htotal', hsize.trans hsize', hpos, ?_, ?_, ?_, ?_⟩
  · have := a.page.pageSize_bounds
    omega
  · intro k hk
    rw [hitems k hk, hpage k hk, length_windowAt, htotal']
    exact ⟨rfl, rfl⟩
  · calc (List.range ((first.total + a.page.rowsPerPage - 1) / a.page.rowsPerPage)).flatMap
          (s.itemsAt order registry kind.model params)
        = (List.range ((first.total + a.page.rowsPerPage - 1) / a.page.rowsPerPage)).flatMap
          (windowAt sel.records a.page.rowsPerPage) := by
          apply List.flatMap_congr
          intro k hk
          apply hitems
          -- there are no more pages than rows, so each can be asked for by its number
          have hlast := lt_of_lt_windows hpos (List.mem_range.mp hk)
          have hhigh : PageRequest.maximumPage ≤ Bounds.signed64.high := by decide
          omega
      _ = sel.records := by rw [htotal', windows_tile sel.records hpos]
  · intro params' other hsame hother
    rw [htotal]
    exact total_eq_of_findPage a hfind hsame hother

/-- A store of users, by identifiers and logins. -/
def ofUsers (users : List (String × String)) : Store where
  tables := [{
    schema := Schema.tables.head (by decide)
    rows := users.mapIdx fun n (id, login) => (n + 1,
      [.text id, .null, .text login, .null, .null, .text "2024-01-01 00:00:00", .null])
    lastKey := users.length }]
  views := []

theorem followsSchema_ofUsers (users : List (String × String)) :
    (ofUsers users).FollowsSchema := by
  constructor
  · intro t ht
    obtain rfl := List.mem_singleton.mp ht
    exact List.head_mem (by decide)
  · intro t ht row hrow v hv
    obtain rfl := List.mem_singleton.mp ht
    obtain ⟨n, hn, rfl⟩ := List.mem_mapIdx.mp hrow
    simp only [List.mem_cons, List.not_mem_nil, or_false] at hv
    obtain rfl | rfl | rfl | rfl | rfl | rfl | rfl := hv <;> rfl

/-- Three of four users in descending order, two on a page: the second page holds one of them,
    and the last of all pages is empty.  The user who is left out has no identifier. -/
theorem findPage_tiles_users :
    let s : Store := ofUsers [("00000000-0000-0000-0000-000000000001", "ann"),
      ("00000000-0000-0000-0000-000000000002", "bob"),
      ("00000000-0000-0000-0000-000000000003", "cid"), ("none", "dan")]
    let m : Model := Access.EntityKind.user.model
    let params : Params := ⟨[("login", "not_dan"), ("count", "2"), ("sort", "desc")]⟩
    ∃ first, s.findPage .insertion .empty m params = .ok first ∧ first.total = 3 ∧
      (s.itemsAt .insertion .empty m params 1).length = 1 ∧
      (s.itemsAt .insertion .empty m params 9223372036854775807).length = 0 ∧
      ((List.range 2).flatMap (s.itemsAt .insertion .empty m params)).length = 3 := by
  intro s m params
  have hs : s.FollowsSchema := followsSchema_ofUsers _
  let a : AcceptedRequest .empty m.entity params := ⟨_, _, _, rfl, rfl⟩
  have hrows : (s.relation? m.table).any (fun r => r.rows.length = 4 &&
      (r.matching a.predicate).length = 3 && r.allRows.all fun row =>
        a.predicate.truth row = .yes → (Record.ofRow row.cell m.attributes).isOk) = true := by
    decide +kernel
  obtain ⟨r, hr, hrows⟩ := (Option.any_eq_true _ _).mp hrows
  simp only [Bool.and_eq_true, decide_eq_true_eq, List.all_eq_true] at hrows
  obtain ⟨⟨hlength, hmatching⟩, hread⟩ := hrows
  have hdecode : ∀ row ∈ r.allRows, a.predicate.truth row = .yes →
      ∃ record, Record.ofRow row.cell m.attributes = .ok record := by
    intro row hrow htruth
    have hok := hread row hrow htruth
    cases hrecord : Record.ofRow row.cell m.attributes with
    | ok record => exact ⟨record, rfl⟩
    | error e =>
      rw [hrecord] at hok
      cases hok
  have hheight : a.predicate.height ≤ heightLimit m.table := by decide +kernel
  have hbinds : a.predicate.binds.length ≤ Search.largestPlaceholder := by decide +kernel
  obtain ⟨items, hfirst⟩ := @FollowsSchema.exists_findPage _ _ _ _ .user hs
    RowOrder.isSteady_insertion a _ _ rfl hr hheight hbinds hdecode
  have hsmall : ∀ r', s.relation? m.table = some r' →
      (r'.rows.length : Int) ≤ PageRequest.maximumPage := by
    intro r' hr'
    obtain rfl := Option.some.inj (hr.symm.trans hr')
    rw [hlength]
    decide
  have hdecode' : ∀ (b : AcceptedRequest .empty m.entity params) (r' : Relation),
      s.relation? m.table = some r' → ∀ row ∈ r'.allRows, b.predicate.truth row = .yes →
        ∃ record, Record.ofRow row.cell m.attributes = .ok record := by
    intro b r' hr'
    obtain rfl := Option.some.inj (hr.symm.trans hr')
    obtain rfl := AcceptedRequest.eq a b
    exact hdecode
  obtain ⟨_, sel, size, htotal, hsize, -, -, hpages, htile, -⟩ :=
    findPage_tiles hs RowOrder.isSteady_insertion hfirst hsmall hdecode'
  obtain rfl : size = 2 := by
    have hpage : a.page.pageSize = 2 := by decide +kernel
    simp only [hpage] at hsize
    omega
  rw [hmatching] at hfirst
  simp only [hmatching] at htotal hpages htile
  refine ⟨_, hfirst, rfl, ?_, ?_, ?_⟩
  · exact (hpages 1 (by decide)).2
  · exact (hpages 9223372036854775807 (by decide)).2
  · exact (congrArg List.length htile).trans htotal.symm

end Store

end FilterQuery
