import FilterQuery.Entity.Embedding
import FilterQuery.Proofs.Entity.Declaration
import FilterQuery.Proofs.Query.Independence

namespace FilterQuery

/-!
# Default orders of declared entities

An entity with a table is sorted by its first column, or by the text that its declaration gives.
Such a text is taken as it is.  A page resolves it like the sort field of a client, to a column or
the column of a filter key; the default order of a query writes it into the statement.

* `EntityDeclaration.defaultSort?` — the default sort field of a declaration;
* `EntityDeclaration.defaultOrder_iff` — the default order can be used exactly where the default
  sort field is a column.
-/

/-- A page of an ascending entity is ascending, unless the request says something else. -/
theorem PageRequest.direction_text_of_ascending {r : PageRequest} {e : Entity}
    (he : e.defaultDirection = "ASC") (hr : r.sort = none) :
    (r.direction (Query.defaultDirection e)).text = "ASC" := by
  rw [direction, hr, Query.defaultDirection, he]
  rfl

/-! ### Declarations -/

namespace DerivedEntity

/-- The first column that attributes add by themselves is one of the columns that they add. -/
theorem mem_columns_of_firstColumn? {e : DerivedEntity} {column : String}
    (h : firstColumn? e.attributes = some column) (types : String → ValueType)
    (shapes : String → EntityShape) : column ∈ (e.shape types shapes).columns := by
  obtain ⟨a, ha, hcolumn⟩ := List.exists_of_findSome?_eq_some h
  refine List.mem_flatMap.mpr ⟨a, ha, ?_⟩
  cases a with
  | column name filter =>
    obtain rfl := Option.some.inj hcolumn
    exact List.mem_singleton_self _
  | embedded => cases hcolumn

end DerivedEntity

namespace EntityDeclaration

variable {d : EntityDeclaration} {e : DerivedEntity}

/-- The column of the first attribute that has one of its own. -/
def firstColumn? (d : EntityDeclaration) : Option String :=
  (d.attributes.find? fun a => !a.isEmbedded).map AttributeDeclaration.column

/-- The field by which the declared entity is sorted: the text that is given last, or the first
    column. -/
def defaultSort? (d : EntityDeclaration) : Option String :=
  (DeclaredOption.last? "default_sort" d.options).or d.firstColumn?

theorem firstColumn?_of_derive (h : d.derive = .ok e) :
    DerivedEntity.firstColumn? e.attributes = d.firstColumn? := by
  rw [attributes_of_derive h, firstColumn?]
  induction d.attributes with
  | nil => rfl
  | cons a as ih =>
    cases hembedded : a.isEmbedded with
    | false => simp [DerivedEntity.firstColumn?, AttributeDeclaration.derived, hembedded]
    | true =>
      -- an embedded entity is passed over on both sides
      have hderived : a.derived = .embedded a.typeText := if_pos hembedded
      rw [List.map_cons, hderived, List.find?_cons_of_neg (by simp [hembedded])]
      exact ih

/-- An accepted entity with a table is sorted by the default sort field. -/
theorem defaultSort?_of_derive (h : d.derive = .ok e) {t : DerivedTable} (ht : e.table = some t) :
    d.defaultSort? = some t.defaultSort := by
  have htable := deriveTable_of_derive h
  rw [deriveTable, firstColumn?_of_derive h, ht] at htable
  rw [defaultSort?]
  cases hname : DeclaredOption.last? "table" d.options with
  | none =>
    rw [hname] at htable
    cases htable
  | some name =>
    cases hsort : (DeclaredOption.last? "default_sort" d.options).or d.firstColumn? with
    | none =>
      rw [hname, hsort] at htable
      cases htable
    | some sort =>
      rw [hname, hsort] at htable
      cases htable
      rfl

variable {types : String → ValueType} {shapes : String → EntityShape} {entity : Entity}

/-- What a declared entity with a table is, apart from its columns and fields. -/
theorem eq_of_entity? (h : d.derive = .ok e) (stored : e.entity? types shapes = some entity) :
    entity.toEntityShape = e.shape types shapes ∧ d.defaultSort? = some entity.defaultSort ∧
      entity.defaultDirection = "ASC" := by
  obtain ⟨t, ht, rfl⟩ := Option.map_eq_some_iff.mp stored
  exact ⟨rfl, defaultSort?_of_derive h ht, rfl⟩

/-- **Default orders of declared entities.** An accepted entity with a table is sorted by the
    text that is given last as its default sort field, or else by its first column, which is one
    of its columns.  Without a sort field a page fails exactly where this text is neither a
    column nor a filter key, and the error shows the text.  The page has the order that is the
    default of the entity, by one of its columns, exactly where the text is a column. -/
theorem defaultOrder_iff (accepted : d.derive = .ok e)
    (stored : e.entity? types shapes = some entity) :
    d.defaultSort? = some entity.defaultSort ∧
      (DeclaredOption.last? "default_sort" d.options = none →
        entity.defaultSort ∈ entity.columns) ∧
      (∀ (q : Query) (r : PageRequest), r.order = none → ∀ error,
        q.paginate entity r = .error error ↔
          ¬entity.Names entity.defaultSort ∧ error = .unknownSortField entity.defaultSort) ∧
      ∀ (q : Query) (r : PageRequest), q.order = none → r.order = none → r.sort = none →
        ((∃ q' k, q.paginate entity r = .ok q' ∧ q'.order = some k ∧
            (q.defaultOrder entity).order = some k ∧ k.column ∈ entity.columns) ↔
          entity.defaultSort ∈ entity.columns) := by
  obtain ⟨hshape, hsort, hdirection⟩ := eq_of_entity? accepted stored
  refine ⟨hsort, ?_, ?_, ?_⟩
  · -- no field is given, so that the first column is the default
    intro hnone
    rw [defaultSort?, hnone, Option.none_or, ← firstColumn?_of_derive accepted] at hsort
    rw [hshape]
    exact DerivedEntity.mem_columns_of_firstColumn? hsort types shapes
  · intro q r horder error
    rw [Query.paginate_eq_error_iff, horder]
    rfl
  · intro q r hq horder hdefault
    have hdirect : (r.direction (Query.defaultDirection entity)).text = entity.defaultDirection :=
      (PageRequest.direction_text_of_ascending hdirection hdefault).trans hdirection.symm
    have hown : (q.defaultOrder entity).order =
        some ⟨entity.defaultSort, entity.defaultDirection⟩ := by
      rw [Query.defaultOrder, hq]
    -- the default order is by the text as it is, so the column of the page has to be the text
    constructor
    · rintro ⟨q', k, -, -, hk, hmem⟩
      rw [hown] at hk
      obtain rfl := Option.some.inj hk
      exact hmem
    · intro hmem
      have hcolumn : Query.resolveColumn? entity (r.order.getD entity.defaultSort) =
          some entity.defaultSort := by
        rw [horder]
        exact Query.resolveColumn?_of_mem hmem
      exact ⟨_, _, q.paginate_eq_ok hcolumn, by rw [hdirect], hown, hmem⟩

/-- A book with the timestamps of an audit record is sorted by one of them. -/
theorem defaultOrder_iff_embedded :
    let d : EntityDeclaration := ⟨.named, "Book",
      [⟨"table", .text "books"⟩, ⟨"default_sort", .text "insert_date"⟩],
      [⟨"title", "String", [⟨"type", .text "text"⟩]⟩, ⟨"audit", "Audit", [⟨"flatten", .bare⟩]⟩]⟩
    let shapes := DerivedEntity.shapeOf (fun _ => .text)
      [⟨"Audit", [.column "insert_date" none, .column "update_date" none], none⟩]
    ∃ e entity, d.derive = .ok e ∧ e.entity? (fun _ => .text) shapes = some entity ∧
      entity.columns = ["title", "insert_date", "update_date"] ∧
      ∀ (q : Query) (r : PageRequest), q.order = none → r.order = none → r.sort = none →
        ∃ q' k, q.paginate entity r = .ok q' ∧ q'.order = some k ∧
          (q.defaultOrder entity).order = some k ∧ k.column ∈ entity.columns := by
  intro d shapes
  refine ⟨_, _, rfl, rfl, rfl, fun q r hq horder hsort => ?_⟩
  obtain ⟨-, -, -, hiff⟩ := @defaultOrder_iff d _ (fun _ => .text) shapes _ rfl rfl
  exact (hiff q r hq horder hsort).mpr (by decide)

/-- A default sort field that is no name of the book, so that no page of it can be read, and one
    that is a filter key: pages are in the order of the column of the key, and the default order
    is by a column that there is not. -/
theorem defaultOrder_unresolved :
    let d (sort : String) : EntityDeclaration := ⟨.named, "Book",
      [⟨"table", .text "books"⟩, ⟨"default_sort", .text sort⟩],
      [⟨"title", "String", [⟨"type", .text "text"⟩]⟩,
        ⟨"insert_date", "NaiveDateTime", [⟨"type", .text "date"⟩]⟩]⟩
    let book (sort : String) : Entity := ⟨⟨"Book",
      [⟨"title", "title", .text, .text⟩, ⟨"insertDate", "insert_date", .date, .text⟩],
      ["title", "insert_date"]⟩, "books", sort, "ASC"⟩
    let r : PageRequest := ⟨none, none, none, none⟩
    (∀ sort, ∃ e, (d sort).derive = .ok e ∧
      e.entity? (fun _ => .text) (DerivedEntity.shapeOf (fun _ => .text) []) = some (book sort)) ∧
    Query.empty.paginate (book "pages") r = .error (.unknownSortField "pages") ∧
    (∃ q, Query.empty.paginate (book "insertDate") r = .ok q ∧
      q.order = some ⟨"insert_date", "ASC"⟩) ∧
    (Query.empty.defaultOrder (book "insertDate")).order = some ⟨"insertDate", "ASC"⟩ ∧
    "insertDate" ∉ (book "insertDate").columns := by
  intro d book r
  have hcolumn : Query.resolveColumn? (book "insertDate") (r.order.getD "insertDate") =
      some "insert_date" := rfl
  refine ⟨fun sort => ⟨_, rfl, rfl⟩, rfl, ⟨_, Query.paginate_eq_ok _ hcolumn, ?_⟩, rfl, ?_⟩
  · rw [PageRequest.direction_text_of_ascending rfl rfl]
  · decide

end EntityDeclaration

end FilterQuery
