import FilterQuery.Access.Models
import FilterQuery.Proofs.Filter.Tags
import FilterQuery.Query.Builder

namespace FilterQuery

/-!
# What the texts of statements depend on

Clients send keys, filter values and a sort field.  None of these texts is a part of a
statement: it shows which fields are filtered, by which operators, and a column that the
entity declares.

* `EntityShape.Names` — the texts by which an entity can be sorted;
* `Query.paginate_eq_ok`, `Query.paginate_eq_error_iff` — what comes of paging;
* `Query.Sorts`, `Query.exists_orderBy_of_names` — what comes of sorting by some text;
* `AcceptedRequest`, `AcceptedRequest.SameShape` — requests that differ in their texts;
* `Query.text_of_request` — such requests have the same statements.
-/

/-! ### Sort fields -/

/-- The text is a column of the shape, or the key of one of its fields. -/
def EntityShape.Names (e : EntityShape) (s : String) : Prop :=
  s ∈ e.columns ∨ ∃ f ∈ e.fields, f.key = s

namespace Field

/-- The first field of a key is found among the fields that are left. -/
theorem withKey?_distinctFrom (fs : List Field) (seen : List String) (key : String) :
    withKey? (distinctFrom seen fs) key = if key ∈ seen then none else withKey? fs key := by
  induction fs generalizing seen with
  | nil => split <;> rfl
  | cons f fs ih =>
    rw [distinctFrom]
    by_cases hkey : f.key = key
    · -- the field that is looked for
      subst hkey
      by_cases hseen : f.key ∈ seen
      · rw [if_pos hseen, ih, if_pos hseen, if_pos hseen]
      · rw [if_neg hseen, if_neg hseen, withKey?, withKey?, List.find?_cons_of_pos (by simp),
          List.find?_cons_of_pos (by simp)]
    · have hskip (us : List Field) : withKey? (f :: us) key = withKey? us key :=
        List.find?_cons_of_neg (by simpa using hkey)
      have hkey' : key ≠ f.key := fun h => hkey h.symm
      rw [hskip fs]
      split
      · exact ih seen
      · rw [hskip, ih]
        simp only [List.mem_cons, hkey', false_or]

theorem withKey?_distinct (fs : List Field) (key : String) :
    withKey? (distinct fs) key = withKey? fs key := by
  rw [distinct, withKey?_distinctFrom, if_neg List.not_mem_nil]

end Field

/-- The fields of a model are on columns of it. -/
theorem Model.column_mem {m : Model} {f : Field} (hf : f ∈ m.entity.fields) :
    f.column ∈ m.entity.columns := by
  obtain ⟨a, ha, hfield⟩ := List.mem_filterMap.mp hf
  obtain ⟨⟨key, category⟩, -, rfl⟩ := Option.map_eq_some_iff.mp hfield
  exact List.mem_map_of_mem ha

namespace Query

/-- A sort field is resolved exactly where the entity has it for a name. -/
theorem resolveColumn?_eq_none_iff {e : Entity} {s : String} :
    resolveColumn? e s = none ↔ ¬e.Names s := by
  unfold resolveColumn? EntityShape.Names
  by_cases hs : s ∈ e.columns
  · simp [hs]
  · rw [if_neg hs, EntityShape.field?, EntityShape.distinctFields, Field.withKey?_distinct,
      Field.withKey?, Option.map_eq_none_iff, List.find?_eq_none]
    simp [hs]

theorem resolveColumn?_of_mem {e : Entity} {s : String} (h : s ∈ e.columns) :
    resolveColumn? e s = some s := if_pos h

theorem names_of_resolveColumn? {e : Entity} {s column : String}
    (h : resolveColumn? e s = some column) : e.Names s := by
  by_contra hnone
  rw [resolveColumn?_eq_none_iff.mpr hnone] at h
  cases h

/-- A query is paged in the order of the column that the sort field names. -/
theorem paginate_eq_ok (q : Query) {e : Entity} {r : PageRequest} {column : String}
    (h : resolveColumn? e (r.order.getD e.defaultSort) = some column) :
    q.paginate e r = .ok { q with
      order := some ⟨column, (r.direction (defaultDirection e)).text⟩
      limit := some r.pageSize
      offset := some r.offset } := by
  rw [paginate_eq, orderBy, h]
  rfl

/-- A query cannot be paged exactly where the entity does not have the sort field for a name. -/
theorem paginate_eq_error_iff {q : Query} {e : Entity} {r : PageRequest} {error : QueryError} :
    q.paginate e r = .error error ↔
      ¬e.Names (r.order.getD e.defaultSort) ∧
        error = .unknownSortField (r.order.getD e.defaultSort) := by
  rw [← resolveColumn?_eq_none_iff]
  cases hcolumn : resolveColumn? e (r.order.getD e.defaultSort) with
  | none =>
    rw [paginate_eq, orderBy, hcolumn]
    simp [Except.map, eq_comm]
  | some column =>
    rw [q.paginate_eq_ok hcolumn]
    simp

/-- Where all fields are on columns of the entity, a sort field is resolved to one of them. -/
theorem mem_columns_of_resolveColumn? {e : Entity} (he : ∀ f ∈ e.fields, f.column ∈ e.columns)
    {s column : String} (h : resolveColumn? e s = some column) : column ∈ e.columns := by
  unfold resolveColumn? at h
  split at h
  · next hs =>
    obtain rfl := Option.some.inj h
    exact hs
  · rw [EntityShape.field?, EntityShape.distinctFields, Field.withKey?_distinct] at h
    obtain ⟨f, hf, rfl⟩ := Option.map_eq_some_iff.mp h
    exact he f (List.mem_of_find?_eq_some hf)

/-- Where all fields are on columns of the entity, it can be sorted by each of its names. -/
theorem exists_orderBy_of_names {e : Entity} (he : ∀ f ∈ e.fields, f.column ∈ e.columns)
    {s : String} (hs : e.Names s) (q : Query) (d : Direction) :
    ∃ column ∈ e.columns, q.orderBy e s d = .ok { q with order := some ⟨column, d.text⟩ } := by
  cases hcolumn : resolveColumn? e s with
  | none => exact absurd hs (resolveColumn?_eq_none_iff.mp hcolumn)
  | some column =>
    refine ⟨column, mem_columns_of_resolveColumn? he hcolumn, ?_⟩
    rw [orderBy, hcolumn]

/-! ### Orders -/

/-- What comes of sorting a query by some text: an error about this text, which the entity
    does not have for a name, or an order by one of the columns of the entity. -/
def Sorts (e : Entity) (q : Query) (s : String) (d : Direction) : Except QueryError Query → Prop
  | .error error => ¬e.Names s ∧ error = .unknownSortField s
  | .ok q' => e.Names s ∧ ∃ column ∈ e.columns, q'.text e =
      e.selectText ++ q.whereText ++ (" ORDER BY " ++ (column ++ " " ++ d.text)) ++ q'.limitText ++
        q'.offsetText

theorem sorts_orderBy (m : Model) (q : Query) (s : String) (d : Direction) :
    Sorts m.entity q s d (q.orderBy m.entity s d) := by
  unfold orderBy
  cases hcolumn : resolveColumn? m.entity s with
  | none => exact ⟨resolveColumn?_eq_none_iff.mp hcolumn, rfl⟩
  | some column =>
    exact ⟨names_of_resolveColumn? hcolumn, column,
      mem_columns_of_resolveColumn? (fun _ => m.column_mem) hcolumn, rfl⟩

theorem sorts_paginate (m : Model) (q : Query) (r : PageRequest) :
    Sorts m.entity q (r.order.getD m.entity.defaultSort)
      (r.direction (defaultDirection m.entity)) (q.paginate m.entity r) := by
  cases hcolumn : resolveColumn? m.entity (r.order.getD m.entity.defaultSort) with
  | none =>
    have hnone := resolveColumn?_eq_none_iff.mp hcolumn
    rw [paginate_eq_error_iff.mpr ⟨hnone, rfl⟩]
    exact ⟨hnone, rfl⟩
  | some column =>
    rw [q.paginate_eq_ok hcolumn]
    exact ⟨names_of_resolveColumn? hcolumn, column,
      mem_columns_of_resolveColumn? (fun _ => m.column_mem) hcolumn, rfl⟩

/-! ### Values -/

/-- The query without its values. -/
def blank (q : Query) : Query := { q with values := [] }

/-- Queries that only differ in their values have the same statements. -/
theorem text_eq_of_blank_eq {q q' : Query} (h : q.blank = q'.blank) (e : Entity) :
    q.text e = q'.text e ∧ q.countText e = q'.countText e := by
  have htext : q.blank.text e = q'.blank.text e := by rw [h]
  have hcount : q.blank.countText e = q'.blank.countText e := by rw [h]
  exact ⟨htext, hcount⟩

/-- Predicates that only differ in their values make queries that only differ in theirs. -/
theorem blank_filter (q : Query) {p p' : Predicate} (h : p.blank = p'.blank) :
    (q.filter (.predicate p)).blank = (q.filter (.predicate p')).blank := by
  have halways : (QueryFilter.predicate p).isEmpty = (QueryFilter.predicate p').isEmpty :=
    Predicate.isAlways_eq_of_blank_eq h
  have hconditions :
      (QueryFilter.predicate p).conditions = (QueryFilter.predicate p').conditions := by
    rw [QueryFilter.conditions, QueryFilter.conditions, Predicate.isAlways_eq_of_blank_eq h,
      Predicate.text_eq_of_blank_eq h]
  unfold filter
  rw [halways, hconditions]
  split <;> rfl

end Query

/-! ### Requests -/

/-- A request that is accepted: its parameters are split, and the filters among them compile
    to a predicate. -/
structure AcceptedRequest (registry : Registry) (e : Entity) (params : Params) where
  page : PageRequest
  filters : Params
  predicate : Predicate
  splits : PageRequest.ofParams params = .ok (page, filters)
  compiles : Field.compile registry e.distinctFields filters = .ok predicate

namespace AcceptedRequest

variable {registry : Registry} {e : Entity} {params params' : Params}

/-- The column that the request is sorted by. -/
def column? (a : AcceptedRequest registry e params) : Option String :=
  Query.resolveColumn? e (a.page.order.getD e.defaultSort)

/-- The direction in which the request is sorted. -/
def direction (a : AcceptedRequest registry e params) : Direction :=
  a.page.direction (Query.defaultDirection e)

/-- The query that has the filter and the page of the request. -/
def query (a : AcceptedRequest registry e params) (q : Query) : Except QueryError Query :=
  (q.filter (.predicate a.predicate)).paginate e a.page

/-- Two requests have the same shape: the same fields contribute, the alternatives of each
    have the same operators and signs, and order and page are the same. -/
structure SameShape (a : AcceptedRequest registry e params)
    (b : AcceptedRequest registry e params') : Prop where
  contributes : ∀ f ∈ e.distinctFields, f.contributes a.filters = f.contributes b.filters
  tags : ∀ f ∈ e.distinctFields, f.contributes a.filters = true →
    f.tags registry a.filters = f.tags registry b.filters
  sorted : a.column?.isSome = true
  column : a.column? = b.column?
  direction : a.direction = b.direction
  page : a.page.pageIndex = b.page.pageIndex
  size : a.page.pageSize = b.page.pageSize

variable {a : AcceptedRequest registry e params} {b : AcceptedRequest registry e params'}

/-- The query of a request whose sort field is resolved. -/
theorem query_eq {column : String} (h : a.column? = some column) (q : Query) :
    a.query q = .ok { q.filter (.predicate a.predicate) with
      order := some ⟨column, a.direction.text⟩
      limit := some a.page.pageSize
      offset := some (a.page.pageIndex * a.page.pageSize) } :=
  Query.paginate_eq_ok _ h

/-- Requests of the same shape have queries that only differ in their values. -/
theorem SameShape.blank_query (h : a.SameShape b) (q : Query) :
    ∃ q₁ q₂, a.query q = .ok q₁ ∧ b.query q = .ok q₂ ∧ q₁.blank = q₂.blank := by
  obtain ⟨column, hcolumn⟩ := Option.isSome_iff_exists.mp h.sorted
  have hblank := Field.blank_compile h.contributes h.tags a.compiles b.compiles
  have hfilter := Query.blank_filter q hblank
  refine ⟨_, _, query_eq hcolumn q, query_eq (h.column ▸ hcolumn) q, ?_⟩
  rw [h.direction, h.page, h.size]
  -- order and window are the same, the conditions are those of the predicates
  exact congrArg (fun filtered : Query => { filtered with
    order := some ⟨column, b.direction.text⟩
    limit := some b.page.pageSize
    offset := some (b.page.pageIndex * b.page.pageSize) }) hfilter

end AcceptedRequest

/-- **Texts of clients stay out of the statements.** For every model, two accepted requests of
    the same shape have the same statements, whatever query they are added to.  A text to sort
    by is refused, or it is a name of the entity and stands for one of its columns. -/
theorem Query.text_of_request (m : Model) :
    (∀ (registry : Registry) (params params' : Params)
        (a : AcceptedRequest registry m.entity params)
        (b : AcceptedRequest registry m.entity params') (q : Query), a.SameShape b →
      ∃ q₁ q₂, a.query q = .ok q₁ ∧ b.query q = .ok q₂ ∧
        q₁.text m.entity = q₂.text m.entity ∧ q₁.countText m.entity = q₂.countText m.entity) ∧
      (∀ (q : Query) (s : String) (d : Direction),
        Sorts m.entity q s d (q.orderBy m.entity s d)) ∧
      ∀ (q : Query) (r : PageRequest),
        Sorts m.entity q (r.order.getD m.entity.defaultSort)
          (r.direction (defaultDirection m.entity)) (q.paginate m.entity r) := by
  refine ⟨?_, sorts_orderBy m, sorts_paginate m⟩
  intro registry params params' a b q hshape
  obtain ⟨q₁, q₂, h₁, h₂, hblank⟩ := hshape.blank_query q
  obtain ⟨htext, hcount⟩ := Query.text_eq_of_blank_eq hblank m.entity
  exact ⟨q₁, q₂, h₁, h₂, htext, hcount⟩

/-- Users by two logins, sorted by their identifier: what the first request asks for is made
    up to look like a part of a statement. -/
theorem Query.text_of_request_user :
    let params : Params :=
      ⟨[("login", "a' OR 1=1|not_;DROP TABLE users"), ("order", "id"), ("page", "-1"),
        ("1=1 --", "?")]⟩
    let params' : Params := ⟨[("login", "ann|NOT_bob"), ("order", "usr_id"), ("sort", "asc")]⟩
    ∃ (a : AcceptedRequest .empty Access.user.entity params)
      (b : AcceptedRequest .empty Access.user.entity params') (q₁ q₂ : Query),
      a.SameShape b ∧ a.query .empty = .ok q₁ ∧ b.query .empty = .ok q₂ ∧
        q₁.text Access.user.entity = q₂.text Access.user.entity ∧
        q₁.orderBy Access.user.entity "login; --" .ascending =
          .error (.unknownSortField "login; --") := by
  intro params params'
  let a : AcceptedRequest .empty Access.user.entity params := ⟨_, _, _, rfl, rfl⟩
  let b : AcceptedRequest .empty Access.user.entity params' := ⟨_, _, _, rfl, rfl⟩
  have hshape : a.SameShape b :=
    ⟨by decide +kernel, by decide +kernel, rfl, rfl, rfl, rfl, rfl⟩
  obtain ⟨htext, -⟩ := text_of_request Access.user
  obtain ⟨q₁, q₂, h₁, h₂, hsame, -⟩ := htext .empty params params' a b .empty hshape
  exact ⟨a, b, q₁, q₂, hshape, h₁, h₂, hsame, rfl⟩

end FilterQuery
