import FilterQuery.Entity.Embedding
import FilterQuery.Proofs.Entity.Declaration
import FilterQuery.Proofs.Filter.Columns
import FilterQuery.Proofs.Filter.Locality
import FilterQuery.Proofs.Query.Independence

namespace FilterQuery

/-!
# Fields and columns of declared entities

The columns and the fields of a declared entity are put together apart from each other, and
entities may embed entities that embed others.  Even so the fields stand on columns, in the
same order.

* `AttributeDeclaration.mapped` — the columns in the place of an attribute, each with the
  field on it, if there is one;
* `EntityShape.Lists` — a shape has the columns of a list and the fields on them;
* `EntityShape.Declared` — a shape that is declared, and so are those it embeds, to any depth;
* `EntityShape.Declared.lists` — a declared shape has the columns that its attributes list;
* `EntityDeclaration.fields_on_columns` — fields are on columns, and so are filters and orders.
-/

/-- A column of an entity, and the field on it where clients can filter by it. -/
structure MappedColumn where
  name : String
  field? : Option Field
  on_column : ∀ f ∈ field?, f.column = name

theorem MappedColumn.filterMap_singleton (m : MappedColumn) :
    [m].filterMap field? = m.field?.toList := by
  rw [List.filterMap_cons]
  cases m.field? <;> rfl

/-- The columns of the fields on some columns are among these, in the same order. -/
theorem MappedColumn.sublist_names (ms : List MappedColumn) :
    ((ms.filterMap field?).map Field.column).Sublist (ms.map name) := by
  induction ms with
  | nil => exact .slnil
  | cons m ms ih =>
    rw [List.map_cons]
    cases hfield : m.field? with
    | none =>
      rw [List.filterMap_cons_none hfield]
      exact ih.cons m.name
    | some f =>
      rw [List.filterMap_cons_some hfield, List.map_cons, m.on_column f hfield]
      exact ih.cons_cons m.name

namespace AttributeDeclaration

/-- The field of an attribute that has a filter type. -/
def field? (types : String → ValueType) (a : AttributeDeclaration) : Option Field :=
  a.category?.map fun category =>
    ⟨a.key, a.column, category, types (TypeText.withoutOption a.type)⟩

theorem column_of_field? {types : String → ValueType} {a : AttributeDeclaration} {f : Field}
    (h : f ∈ a.field? types) : f.column = a.column := by
  obtain ⟨category, -, rfl⟩ := Option.map_eq_some_iff.mp h
  rfl

theorem key_of_field? {types : String → ValueType} {a : AttributeDeclaration} {f : Field}
    (h : f ∈ a.field? types) : f.key = a.key := by
  obtain ⟨category, -, rfl⟩ := Option.map_eq_some_iff.mp h
  rfl

/-- The column of an attribute by itself. -/
def own (types : String → ValueType) (a : AttributeDeclaration) : MappedColumn :=
  ⟨a.column, a.field? types, fun _ => column_of_field?⟩

/-- The columns in the place of an attribute: its own, or those of the entity it embeds. -/
def mapped (types : String → ValueType) (embedded : String → List MappedColumn)
    (a : AttributeDeclaration) : List MappedColumn :=
  if a.isEmbedded then embedded a.typeText else [a.own types]

end AttributeDeclaration

namespace EntityShape

/-- The shape has the columns of a list and the fields on them, in the order of the list. -/
structure Lists (s : EntityShape) (ms : List MappedColumn) : Prop where
  columns : s.columns = ms.map MappedColumn.name
  fields : s.fields = ms.filterMap MappedColumn.field?

/-- The shape of an accepted declaration, and the columns that its attributes list.  Where an
    attribute embeds a shape, this is the shape of an accepted declaration, too. -/
inductive Declared : EntityShape → List MappedColumn → Prop
  | intro {d : EntityDeclaration} {e : DerivedEntity} (types : String → ValueType)
      (shapes : String → EntityShape) (embedded : String → List MappedColumn)
      (accepted : d.derive = .ok e)
      (embeds : ∀ a ∈ d.attributes, a.isEmbedded = true →
        Declared (shapes a.typeText) (embedded a.typeText)) :
      Declared (e.shape types shapes) (d.attributes.flatMap (·.mapped types embedded))

end EntityShape

/-! ### Lists of columns -/

/-- What an attribute adds to the columns and to the fields is what it lists. -/
theorem AttributeDeclaration.derived_eq (types : String → ValueType)
    {shapes : String → EntityShape} {embedded : String → List MappedColumn}
    {a : AttributeDeclaration}
    (h : a.isEmbedded = true → (shapes a.typeText).Lists (embedded a.typeText)) :
    a.derived.columns shapes = (a.mapped types embedded).map MappedColumn.name ∧
      a.derived.fields types shapes = (a.mapped types embedded).filterMap MappedColumn.field? := by
  unfold derived mapped
  split_ifs with hembedded
  · exact ⟨(h hembedded).columns, (h hembedded).fields⟩
  · refine ⟨rfl, ?_⟩
    rw [MappedColumn.filterMap_singleton]
    change _ = (a.field? types).toList
    rw [AttributeDeclaration.field?]
    cases a.category? <;> rfl

/-- An accepted attribute that embeds no entity lists one column, with a field on it exactly where
    it has a filter type. -/
theorem AttributeDeclaration.exists_mapped_eq {a : AttributeDeclaration} {x : DerivedAttribute}
    (h : a.derive = .ok x) (hembedded : a.isEmbedded = false) (types : String → ValueType)
    (embedded : String → List MappedColumn) :
    ∃ m, a.mapped types embedded = [m] ∧ m.name = a.column ∧
      m.field?.isSome = a.isFilterable ∧ ∀ f ∈ m.field?, f.key = a.key := by
  obtain ⟨-, hfilterable, -⟩ := eq_of_derive h
  refine ⟨a.own types, ?_, rfl, ?_, fun _ => key_of_field?⟩
  · rw [mapped, hembedded]
    rfl
  · exact Option.isSome_map.trans hfilterable

namespace EntityShape

variable {s : EntityShape} {ms : List MappedColumn}

/-- A field is on a column of the shape. -/
theorem Lists.column_mem (h : s.Lists ms) {f : Field} (hf : f ∈ s.fields) :
    f.column ∈ s.columns := by
  rw [h.fields] at hf
  rw [h.columns]
  exact (MappedColumn.sublist_names ms).subset (List.mem_map_of_mem hf)

/-- An accepted declaration makes a shape that has the columns its attributes list, if those
    that it embeds have. -/
theorem lists_of_derive {d : EntityDeclaration} {e : DerivedEntity} {types : String → ValueType}
    {shapes : String → EntityShape} {embedded : String → List MappedColumn}
    (h : d.derive = .ok e)
    (hembedded : ∀ a ∈ d.attributes, a.isEmbedded = true →
      (shapes a.typeText).Lists (embedded a.typeText)) :
    (e.shape types shapes).Lists (d.attributes.flatMap (·.mapped types embedded)) := by
  have hderived (a : AttributeDeclaration) (ha : a ∈ d.attributes) :=
    AttributeDeclaration.derived_eq types (hembedded a ha)
  constructor
  · calc (e.shape types shapes).columns
        = d.attributes.flatMap fun a => a.derived.columns shapes :=
          EntityDeclaration.flatMap_of_derive h _
      _ = d.attributes.flatMap fun a => (a.mapped types embedded).map MappedColumn.name :=
          List.flatMap_congr fun a ha => (hderived a ha).1
      _ = _ := List.map_flatMap.symm
  · calc (e.shape types shapes).fields
        = d.attributes.flatMap fun a => a.derived.fields types shapes :=
          EntityDeclaration.flatMap_of_derive h _
      _ = d.attributes.flatMap fun a => (a.mapped types embedded).filterMap MappedColumn.field? :=
          List.flatMap_congr fun a ha => (hderived a ha).2
      _ = _ := (List.filterMap_flatMap ..).symm

/-- A declared shape has the columns that its attributes list, at any depth. -/
theorem Declared.lists (h : Declared s ms) : s.Lists ms := by
  -- by induction on how deep entities are embedded
  induction h with
  | intro types shapes embedded accepted embeds ih => exact lists_of_derive accepted ih

/-- The columns of an embedded entity stand between those before and after it. -/
example :
    (DerivedEntity.shapeOf (fun _ => .text)
      [⟨"Book", [.column "title" none, .embedded "Audit", .column "pages" none], none⟩,
        ⟨"Audit", [.column "created" none, .column "changed" none], none⟩] "Book").columns
      = ["title", "created", "changed", "pages"] := by
  decide

end EntityShape

/-! ### Filters and orders -/

/-- Where all fields are on columns of the entity, filters read columns of it. -/
theorem Entity.columns_of_compile {e : Entity} (he : ∀ f ∈ e.fields, f.column ∈ e.columns)
    {registry : Registry} {params : Params} {p : Predicate}
    (hp : Field.compile registry e.distinctFields params = .ok p) :
    ∀ column ∈ p.columns, column ∈ e.columns := by
  intro column hcolumn
  obtain ⟨f, hf, rfl⟩ := Field.columns_of_compile hp column hcolumn
  -- of two fields with one key only the first is left, but columns are never dropped
  exact he f (Field.mem_of_mem_distinct hf)

/-- **Fields are on columns.** The columns of an accepted entity, whatever it embeds, are those
    that its attributes list, and its fields are those on them.  Of an attribute that embeds an
    entity these are all that this entity has, and it has no filter type; any other has one
    column, and a field on it exactly where it has a filter type.  So where the entity has a
    table, filters read columns of it, and it can be sorted by all its columns and filter
    keys. -/
theorem EntityDeclaration.fields_on_columns {d : EntityDeclaration} {e : DerivedEntity}
    {types : String → ValueType} {shapes : String → EntityShape}
    {embedded : String → List MappedColumn} (accepted : d.derive = .ok e)
    (embeds : ∀ a ∈ d.attributes, a.isEmbedded = true →
      (shapes a.typeText).Declared (embedded a.typeText)) :
    let s := e.shape types shapes
    let ms := d.attributes.flatMap (·.mapped types embedded)
    s.columns = ms.map MappedColumn.name ∧ s.fields = ms.filterMap MappedColumn.field? ∧
      (s.fields.map Field.column).Sublist s.columns ∧
      (∀ a ∈ d.attributes, a.isEmbedded = true → a.isFilterable = false ∧
        (shapes a.typeText).Lists (a.mapped types embedded)) ∧
      (∀ a ∈ d.attributes, a.isEmbedded = false →
        ∃ m, a.mapped types embedded = [m] ∧ m.name = a.column ∧
          m.field?.isSome = a.isFilterable ∧ ∀ f ∈ m.field?, f.key = a.key) ∧
      ∀ entity, e.entity? types shapes = some entity →
        (∀ registry params p, Field.compile registry entity.distinctFields params = .ok p →
          ∀ column ∈ p.columns, column ∈ entity.columns) ∧
        ∀ name, (name ∈ entity.columns ∨ ∃ f ∈ entity.distinctFields, f.key = name) →
          ∀ (q : Query) direction, ∃ column ∈ entity.columns,
            q.orderBy entity name direction =
              .ok { q with order := some ⟨column, direction.text⟩ } := by
  intro s ms
  have hlists : s.Lists ms :=
    EntityShape.lists_of_derive accepted fun a ha h => (embeds a ha h).lists
  refine ⟨hlists.columns, hlists.fields, ?_, ?_, ?_, ?_⟩
  · rw [hlists.fields, hlists.columns]
    exact MappedColumn.sublist_names ms
  · -- an attribute that embeds an entity
    intro a ha hembedded
    obtain ⟨x, hx⟩ := exists_derive_of_mem accepted ha
    obtain ⟨-, -, hplain⟩ := AttributeDeclaration.eq_of_derive hx
    refine ⟨hplain hembedded, ?_⟩
    rw [AttributeDeclaration.mapped, if_pos hembedded]
    exact (embeds a ha hembedded).lists
  · -- an attribute with a column of its own
    intro a ha hembedded
    obtain ⟨x, hx⟩ := exists_derive_of_mem accepted ha
    exact AttributeDeclaration.exists_mapped_eq hx hembedded types embedded
  · intro entity hentity
    obtain ⟨table, -, rfl⟩ := Option.map_eq_some_iff.mp hentity
    have hfields : ∀ f ∈ s.fields, f.column ∈ s.columns := fun _ => hlists.column_mem
    refine ⟨fun registry params p => Entity.columns_of_compile hfields, ?_⟩
    intro name hname q direction
    apply Query.exists_orderBy_of_names hfields
    exact hname.imp_right fun ⟨f, hf, hkey⟩ => ⟨f, Field.mem_of_mem_distinct hf, hkey⟩

/-- A book whose audit embeds a stamp: the column of the stamp stands between those of the
    book, the note is no field, and the book can be sorted by a key other than its column. -/
theorem EntityDeclaration.fields_on_columns_book :
    let types : String → ValueType := fun type => if type = "i64" then .integer else .text
    let stamp : EntityDeclaration :=
      ⟨.named, "Stamp", [],
        [⟨"at", "i64", [⟨"type", .text "number"⟩, ⟨"column", .text "at_ms"⟩]⟩]⟩
    let audit : EntityDeclaration :=
      ⟨.named, "Audit", [], [⟨"created", "Stamp", [⟨"flatten", .bare⟩]⟩, ⟨"note", "String", []⟩]⟩
    let book : EntityDeclaration :=
      ⟨.named, "Book", [⟨"table", .text "books"⟩],
        [⟨"title", "String", [⟨"type", .text "text"⟩]⟩, ⟨"audit", "Audit", [⟨"flatten", .bare⟩]⟩,
          ⟨"r#type", "Option<String>", [⟨"type", .text "token"⟩, ⟨"name", .text "kind"⟩]⟩]⟩
    ∃ s a b entity, stamp.derive = .ok s ∧ audit.derive = .ok a ∧ book.derive = .ok b ∧
      b.entity? types (DerivedEntity.shapeOf types [a, s]) = some entity ∧
      entity.columns = ["title", "at_ms", "note", "type"] ∧
      entity.fields.map Field.column = ["title", "at_ms", "type"] ∧
      (entity.fields.map Field.column).Sublist entity.columns ∧
      (∃ p, Field.compile .empty entity.distinctFields ⟨[("at", "5"), ("kind", "x")]⟩ = .ok p ∧
        p.columns = ["at_ms", "type"] ∧ ∀ column ∈ p.columns, column ∈ entity.columns) ∧
      ∃ column ∈ entity.columns, Query.empty.orderBy entity "kind" .descending =
        .ok { Query.empty with order := some ⟨column, "DESC"⟩ } := by
  intro types stamp audit book
  let s : DerivedEntity := ⟨"Stamp", [.column "at_ms" (some ("at", .number, "i64"))], none⟩
  let a : DerivedEntity := ⟨"Audit", [.embedded "Stamp", .column "note" none], none⟩
  let b : DerivedEntity :=
    ⟨"Book", [.column "title" (some ("title", .text, "String")), .embedded "Audit",
      .column "type" (some ("kind", .token, "String"))], some ⟨"books", "title"⟩⟩
  let inStamp := stamp.attributes.flatMap (·.mapped types fun _ => [])
  let inAudit := audit.attributes.flatMap (·.mapped types fun _ => inStamp)
  have hstamp : (DerivedEntity.shapeOf types [s] "Stamp").Declared inStamp := by
    refine .intro (e := s) types (DerivedEntity.shapeOf types []) (fun _ => []) rfl ?_
    intro x hx hembedded
    obtain rfl := List.mem_singleton.mp hx
    cases hembedded
  have haudit : (DerivedEntity.shapeOf types [a, s] "Audit").Declared inAudit := by
    refine .intro (e := a) types (DerivedEntity.shapeOf types [s]) (fun _ => inStamp) rfl ?_
    intro x hx hembedded
    obtain rfl | hx := List.mem_cons.mp hx
    · exact hstamp
    · obtain rfl := List.mem_singleton.mp hx
      cases hembedded
  let inBook : String → List MappedColumn := fun _ => inAudit
  have hbook : ∀ x ∈ book.attributes, x.isEmbedded = true →
      (DerivedEntity.shapeOf types [a, s] x.typeText).Declared (inBook x.typeText) := by
    intro x hx hembedded
    obtain rfl | hx := List.mem_cons.mp hx
    · cases hembedded
    obtain rfl | hx := List.mem_cons.mp hx
    · exact haudit
    · obtain rfl := List.mem_singleton.mp hx
      cases hembedded
  obtain ⟨-, -, hsublist, -, -, hentity⟩ := fields_on_columns (d := book) (e := b) rfl hbook
  obtain ⟨hfilters, horders⟩ := hentity _ rfl
  refine ⟨s, a, b, _, rfl, rfl, rfl, rfl, rfl, rfl, hsublist, ?_, ?_⟩
  · exact ⟨_, rfl, rfl, hfilters .empty ⟨[("at", "5"), ("kind", "x")]⟩ _ rfl⟩
  · exact horders "kind" (.inr ⟨⟨"kind", "type", .token, .text⟩, by decide, rfl⟩) .empty .descending

end FilterQuery
