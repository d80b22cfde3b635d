import FilterQuery.Proofs.Filter.Locality
import FilterQuery.Proofs.Filter.OwnValues
import FilterQuery.Proofs.Store.Find
import FilterQuery.Proofs.Store.Tree

namespace FilterQuery

/-!
# Rows selected by their own values

Each field of access control is filtered by a category that fits its values, and no column
prefers values of another kind than those stored in it.  So the parameters that are printed
from a row select it, whichever of the fields they name.

* `Row.ownValues` — the values of a row as parameters;
* `Access.isTyped` — the fields of access control are filtered by the types of their values;
* `Store.FollowsSchema.keepsValues` — the columns of tables and views keep what is stored;
* `Store.FollowsSchema.ownValues_select` — the values of a row select it.
-/

/-! ### Parameters from a row -/

/-- The values of some fields of a row, as parameters of a request. -/
def Row.ownValues (row : Row) (chosen : List Field) : Params :=
  ⟨chosen.map fun f => (f.key, f.type.printed (row.cell f.column))⟩

/-- A parameter is the value of the field of its key. -/
theorem Row.exists_of_get?_ownValues {row : Row} {chosen : List Field} {key raw : String}
    (h : (row.ownValues chosen).get? key = some raw) :
    ∃ f ∈ chosen, f.key = key ∧ raw = f.type.printed (row.cell f.column) := by
  obtain ⟨entry, hentry, rfl⟩ := Option.map_eq_some_iff.mp h
  have hkey := List.find?_some hentry
  obtain ⟨f, hf, rfl⟩ := List.mem_map.mp (List.mem_of_find?_eq_some hentry)
  exact ⟨f, hf, beq_iff_eq.mp hkey, rfl⟩

/-! ### Fields of access control -/

namespace Access

/-- The types of the values in the entities of access control. -/
def valueTypes : List ValueType :=
  [.text, .integer, .boolean, .identifier, .timestamp] ++ enumerations.map .enumeration

theorem field_mem_categories : ∀ kind ∈ EntityKind.every,
    ∀ f ∈ kind.model.entity.distinctFields,
      f.type ∈ valueTypes ∧ f.category ∈ f.type.categories := by decide +kernel

/-- Of the entities only the tree has truth values. -/
theorem boolean_field : ∀ kind ∈ EntityKind.every, ∀ f ∈ kind.model.entity.distinctFields,
    f.type = .boolean → kind = .accessControlTree ∧ f.column = "direct" := by decide +kernel

/-- The members of the enumerations stand for themselves as filter values. -/
theorem isLiteral_of_mem_names : ∀ e ∈ enumerations, ∀ name ∈ e.names,
    Alternative.IsLiteral name ∧ Alternative.isNullLiteral name = false := by decide

theorem mem_enumerations_of_mem_valueTypes {e : Enumeration}
    (h : .enumeration e ∈ valueTypes) : e ∈ enumerations := by
  simpa [valueTypes] using h

/-- **Typed filters.** The fields of the entities are filtered by the types of their values. -/
theorem isTyped {kind : EntityKind} {f : Field} (hf : f ∈ kind.model.entity.distinctFields) :
    f.IsTyped := by
  obtain ⟨htype, hcategory⟩ := field_mem_categories kind (EntityKind.mem_every kind) f hf
  have hdomain (e : Enumeration) (he : f.type = .enumeration e) : e ∈ enumerations :=
    mem_enumerations_of_mem_valueTypes (he ▸ htype)
  constructor
  · exact hcategory
  · intro e he
    exact isLiteral_of_mem_names e (hdomain e he)

end Access

/-! ### Columns -/

/-- The columns of a relation keep the values of an entity: none prefers values of another kind. -/
def Relation.KeepsValues (r : Relation) (e : Entity) : Prop :=
  ∀ f ∈ e.distinctFields, affinityOf f.column r.columns ≠ f.type.rival

instance (r : Relation) (e : Entity) : Decidable (r.KeepsValues e) :=
  inferInstanceAs (Decidable (∀ f ∈ e.distinctFields, _))

/-- The tables and views of the schema keep the values of the entities that are read from them. -/
theorem Schema.keepsValues : ∀ kind ∈ Access.EntityKind.every, ∀ entry ∈ Schema.relations,
    Text.sameIgnoringCase entry.1 kind.model.table = true →
      entry.2.KeepsValues kind.model.entity := by decide +kernel

/-- No table has the name of the tree. -/
theorem Schema.ne_tree : ∀ t ∈ Schema.tables,
    Text.sameIgnoringCase t.name "access_controls_tree_view" = false := by decide

namespace Store

variable {s : Store} {kind : Access.EntityKind} {r : Relation}

/-- The table or view of an entity keeps its values. -/
theorem FollowsSchema.keepsValues (h : s.FollowsSchema)
    (hr : s.relation? kind.model.table = some r) : r.KeepsValues kind.model.entity := by
  obtain ⟨entry, hentry, hname, heq⟩ := h.exists_mem_relations hr
  have hkeeps := Schema.keepsValues kind (Access.EntityKind.mem_every kind) entry hentry hname
  rw [heq] at hkeeps
  exact hkeeps

/-- A row of the tree says by 0 or 1 whether its access controls are linked. -/
theorem direct_of_mem_tree {row : Row} (hrow : row ∈ s.tree.allRows) :
    ∃ direct : Bool, row.cell "direct" = .integer (if direct then 1 else 0) := by
  rw [allRows_tree] at hrow
  obtain ⟨⟨ends, direct⟩, -, hrow⟩ := List.mem_flatMap.mp hrow
  obtain ⟨cells, hcells, rfl⟩ := List.mem_map.mp hrow
  obtain ⟨current, -, hcells⟩ := List.mem_flatMap.mp hcells
  obtain ⟨parent, -, rfl⟩ := List.mem_map.mp hcells
  exact ⟨direct, rfl⟩

/-- The truth values in the rows of an entity are 0 and 1. -/
theorem FollowsSchema.flag_of_boolean (h : s.FollowsSchema)
    (hr : s.relation? kind.model.table = some r) {row : Row} (hrow : row ∈ r.allRows) {f : Field}
    (hf : f ∈ kind.model.entity.distinctFields) (htype : f.type = .boolean) {n : Int}
    (hcell : row.cell f.column = .integer n) : n = 0 ∨ n = 1 := by
  obtain ⟨rfl, hcolumn⟩ := Access.boolean_field kind (Access.EntityKind.mem_every kind) f hf htype
  have htree : r = s.tree := by
    obtain ⟨t, -, hschema, hname, -⟩ | ⟨hname, -⟩ | ⟨hname, -⟩ | ⟨-, rfl⟩ :=
      h.relation?_eq_some hr
    · rw [show Access.EntityKind.accessControlTree.model.table = "access_controls_tree_view"
        from rfl, Schema.ne_tree _ hschema] at hname
      cases hname
    · exact absurd hname (by decide)
    · exact absurd hname (by decide)
    · rfl
  subst htree
  obtain ⟨direct, hdirect⟩ := direct_of_mem_tree hrow
  rw [hcolumn, hdirect] at hcell
  obtain rfl := Cell.integer.inj hcell
  cases direct
  · exact .inl rfl
  · exact .inr rfl

/-- **Rows are selected by their own values.** Let a row of the table or view of an entity hold,
    in the columns of some of its fields, what was written by their types: identifiers and
    timestamps in their texts, members under their names, texts that can be filtered by as they
    are, or nothing.  Then these columns are read, the values printed from them are accepted as
    parameters, whichever enumerations are filtered strictly, and the predicate of these
    parameters is true of the row. -/
theorem FollowsSchema.ownValues_select (h : s.FollowsSchema)
    (hr : s.relation? kind.model.table = some r) {row : Row} (hrow : row ∈ r.allRows)
    {registry : Registry} {chosen : List Field}
    (hchosen : chosen ⊆ kind.model.entity.distinctFields)
    (hstores : ∀ f ∈ chosen, f.Stores (row.cell f.column)) :
    (∀ f ∈ chosen, row.cell f.column = .null ∨
      ∃ v, f.type.ofCell (row.cell f.column) = .ok v) ∧
    ∃ p, Field.compile registry kind.model.entity.distinctFields (row.ownValues chosen) = .ok p ∧
      p.truth row = .yes := by
  constructor
  · -- what was written by the type of a field is read by it
    intro f hf
    by_cases hnull : row.cell f.column = .null
    · exact .inl hnull
    · exact .inr ((hstores f hf).exists_ofCell hnull)
  · apply Field.exists_compile_of_finds
    intro f hf raw hraw
    obtain ⟨g, hg, hkey, rfl⟩ := Row.exists_of_get?_ownValues hraw
    -- the value is that of the field itself, as it is the only one with its key
    obtain rfl : g = f :=
      List.inj_on_of_nodup_map (Field.nodup_keys_distinctFrom [] _) (hchosen hg) hf hkey
    have haffinity : row.affinity g.column ≠ g.type.rival := by
      obtain ⟨cells, -, rfl⟩ := List.mem_map.mp hrow
      exact h.keepsValues hr g hf
    exact Field.finds_printed (Access.isTyped hf) (hstores g hg) haffinity
      fun htype n hcell => h.flag_of_boolean hr hrow hf htype hcell

/-- An access control that was made in a leap second and never changed: all of its values, the
    absent one among them, select it together. -/
theorem ownValues_select_control :
    let id : Uuid := ⟨0x0123456789abcdef0123456789abcdef⟩
    let made : Timestamp := ⟨⟨2016, 12, 31, by decide, by decide, by decide⟩,
      ⟨23, 59, 59, 1000000000, by decide, by decide, by decide, by decide⟩⟩
    let s := withRows [("access_controls", [("aco_id", .text id.text), ("name", .text "À la carte"),
      ("type", .text "GROUP"), ("insert_date", .text made.text)])]
    let fields := Access.EntityKind.accessControl.model.entity.distinctFields
    ∃ r, s.relation? "access_controls" = some r ∧ ∃ row ∈ r.allRows,
      (row.ownValues fields).entries = [("id", "01234567-89ab-cdef-0123-456789abcdef"),
        ("name", "À la carte"), ("type", "GROUP"), ("insertDate", "2016-12-31 23:59:60"),
        ("updateDate", "null")] ∧
      ∃ p, Field.compile Access.registry fields (row.ownValues fields) = .ok p ∧
        p.truth row = .yes := by
  intro id made s fields
  have hs : s.FollowsSchema := (built_withRows _).followsSchema
  have hrows : (s.relation? "access_controls").any (fun r => r.allRows.any fun row =>
      row.cell "aco_id" = .text id.text ∧ row.cell "name" = .text "À la carte" ∧
      row.cell "type" = .text "GROUP" ∧ row.cell "insert_date" = .text made.text ∧
      row.cell "update_date" = .null ∧
      (row.ownValues fields).entries = [("id", "01234567-89ab-cdef-0123-456789abcdef"),
        ("name", "À la carte"), ("type", "GROUP"), ("insertDate", "2016-12-31 23:59:60"),
        ("updateDate", "null")]) = true := by decide +kernel
  obtain ⟨r, hr, hrows⟩ := (Option.any_eq_true _ _).mp hrows
  obtain ⟨row, hrow, hcells⟩ := List.any_eq_true.mp hrows
  obtain ⟨hid, hname, htype, hmade, hchanged, hentries⟩ := of_decide_eq_true hcells
  have hfields : fields = [⟨"id", "aco_id", .identifier, .identifier⟩,
      ⟨"name", "name", .text, .text⟩,
      ⟨"type", "type", .enumeration, .enumeration Access.accessControlType⟩,
      ⟨"insertDate", "insert_date", .date, .timestamp⟩,
      ⟨"updateDate", "update_date", .date, .timestamp⟩] := by decide +kernel
  have hstores : ∀ f ∈ fields, f.Stores (row.cell f.column) := by
    rw [hfields]
    simp only [List.forall_mem_cons, hid, hname, htype, hmade, hchanged]
    exact ⟨.identifier rfl, .text rfl ⟨by decide, by decide, by decide⟩, .member rfl (by decide),
      .timestamp rfl, .absent, nofun⟩
  obtain ⟨-, p, hp, htruth⟩ := @FollowsSchema.ownValues_select s .accessControl r hs hr row hrow
    Access.registry fields (List.Subset.refl _) hstores
  exact ⟨r, hr, row, hrow, hentries, p, hp, htruth⟩

end Store

end FilterQuery
