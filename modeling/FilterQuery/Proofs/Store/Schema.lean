import FilterQuery.Store.Order
import Mathlib.Tactic.SplitIfs

namespace FilterQuery

/-!
# Stores that follow the schema

All columns of the schema prefer texts, but for those that show the number of their row.  So
no table holds a floating-point number, and no view does.

* `Store.FollowsSchema` — a store with tables of the schema and such rows;
* `Store.Built.followsSchema` — migrations and insertions make nothing else;
* `Schema.relations` — what stands under the names of the schema, but for the rows;
* `Store.FollowsSchema.isExact` — the rows of its tables and views.
-/

/-- A row without floating-point numbers. -/
def Row.IsExact (row : Row) : Prop := ∀ column, (row.cell column).isReal = false

/-- A list of values without floating-point numbers. -/
def Cell.AllExact (cells : List Cell) : Prop := ∀ v ∈ cells, v.isReal = false

instance (cells : List Cell) : Decidable (Cell.AllExact cells) :=
  inferInstanceAs (Decidable (∀ v ∈ cells, _))

/-- A store whose tables are of the schema, without floating-point numbers in their rows. -/
structure Store.FollowsSchema (s : Store) : Prop where
  schema_mem : ∀ t ∈ s.tables, t.schema ∈ Schema.tables
  exact_rows : ∀ t ∈ s.tables, ∀ row ∈ t.rows, Cell.AllExact row.2

/-! ### Migrations and insertions -/

/-- A column of the schema shows the number of its row, or prefers texts. -/
theorem Schema.isNumber_or_text : ∀ t ∈ Schema.tables, ∀ c ∈ t.columns,
    t.isNumber c.name = true ∨ c.affinity = .text := by decide

/-- A column that prefers texts stores no numbers. -/
theorem Column.isReal_stored {c : Column} (h : c.affinity = .text) (v : Cell) :
    (c.stored v).isReal = false := by
  rw [stored, h]
  cases v <;> rfl

/-- The values of a new row hold no floating-point number. -/
theorem Table.allExact_newCells {t : Table} (h : t.schema ∈ Schema.tables) (number : Int)
    (row : List (String × Cell)) : Cell.AllExact (t.newCells number row) := by
  intro v hv
  obtain ⟨c, hc, rfl⟩ := List.mem_map.mp hv
  split
  · rfl
  · next hnumber =>
    obtain hshown | htext := Schema.isNumber_or_text t.schema h c hc
    · exact absurd hshown hnumber
    · exact c.isReal_stored htext _

namespace Store

theorem mem_of_table? {s : Store} {name : String} {t : Table} (h : s.table? name = some t) :
    t ∈ s.tables := List.mem_of_find?_eq_some h

theorem sameIgnoringCase_of_table? {s : Store} {name : String} {t : Table}
    (h : s.table? name = some t) : Text.sameIgnoringCase t.schema.name name = true :=
  List.find?_some (p := fun t : Table => Text.sameIgnoringCase t.schema.name name) h

/-- The tables of a store in which one is replaced. -/
theorem mem_replace {s : Store} {t u : Table} (h : u ∈ (s.replace t).tables) :
    u = t ∨ u ∈ s.tables := by
  obtain ⟨old, hold, rfl⟩ := List.mem_map.mp h
  split
  · exact .inl rfl
  · exact .inr hold

/-- What an insertion does: it adds one row of new values to a table, where it breaks no
    constraint. -/
theorem insert_eq_ok {s s' : Store} {name : String} {row : List (String × Cell)}
    (h : s.insert name row = .ok s') :
    ∃ t number, s.table? name = some t ∧ s.broken? t number (t.newCells number row) = none ∧
      s' = s.replace (t.append number (t.newCells number row)) := by
  rw [insert] at h
  cases htable : s.table? name with
  | none => simp [htable] at h
  | some t =>
    rw [htable] at h
    simp only at h
    split at h
    · cases h
    · cases hnumber : t.newNumber row with
      | error e => simp [hnumber] at h
      | ok number =>
        rw [hnumber] at h
        simp only at h
        split at h
        · cases h
        · next hbroken => exact ⟨t, number, rfl, hbroken, (Except.ok.inj h).symm⟩

/-- The stores that are made by migrations and insertions. -/
inductive Built : Store → Prop
  | empty : Built .empty
  | migrate {s : Store} (h : Built s) : Built s.migrate.1
  | insert {s s' : Store} {name : String} {row : List (String × Cell)} (h : Built s)
    (hinsert : s.insert name row = .ok s') : Built s'

theorem followsSchema_empty : FollowsSchema .empty := ⟨nofun, nofun⟩

/-- A migration adds empty tables of the schema. -/
theorem FollowsSchema.migrate {s : Store} (h : s.FollowsSchema) : s.migrate.1.FollowsSchema := by
  have htables {t : Table} (ht : t ∈ s.migrate.1.tables) :
      t ∈ s.tables ∨ ∃ schema ∈ Schema.tables, t = Table.create schema := by
    obtain ht | ht := List.mem_append.mp ht
    · exact .inl ht
    · obtain ⟨schema, hschema, rfl⟩ := List.mem_map.mp ht
      exact .inr ⟨schema, (List.mem_filter.mp hschema).1, rfl⟩
  constructor
  · intro t ht
    obtain ht | ⟨schema, hschema, rfl⟩ := htables ht
    · exact h.schema_mem t ht
    · exact hschema
  · intro t ht
    obtain ht | ⟨schema, -, rfl⟩ := htables ht
    · exact h.exact_rows t ht
    · exact fun row hrow => absurd hrow List.not_mem_nil

/-- An insertion adds a row without floating-point numbers. -/
theorem FollowsSchema.insert {s s' : Store} {name : String} {row : List (String × Cell)}
    (h : s.FollowsSchema) (hinsert : s.insert name row = .ok s') : s'.FollowsSchema := by
  obtain ⟨t, number, htable, -, rfl⟩ := insert_eq_ok hinsert
  have ht := mem_of_table? htable
  constructor
  · intro u hu
    obtain rfl | hu := mem_replace hu
    · exact h.schema_mem t ht
    · exact h.schema_mem u hu
  · intro u hu
    obtain rfl | hu := mem_replace hu
    · intro r hr
      obtain hr | hr := List.mem_append.mp hr
      · exact h.exact_rows t ht r hr
      · obtain rfl := List.mem_singleton.mp hr
        exact Table.allExact_newCells (h.schema_mem t ht) number row
    · exact h.exact_rows u hu

/-- Stores that are made by migrations and insertions follow the schema. -/
theorem Built.followsSchema {s : Store} (h : Built s) : s.FollowsSchema := by
  induction h with
  | empty => exact followsSchema_empty
  | migrate _ ih => exact ih.migrate
  | insert _ hinsert ih => exact ih.insert hinsert

end Store

/-- A relation without its rows. -/
def Relation.bare (r : Relation) : Relation := { r with rows := [] }

/-- The tables and views of the schema, without rows. -/
def Schema.relations : List (String × Relation) :=
  (tables.map fun t => (t.name, (Table.create t).relation.bare)) ++
    [("users_access_controls_view", Store.empty.memberships.bare),
      ("users_permissions_view", Store.empty.effectivePermissions.bare),
      ("access_controls_tree_view", Store.empty.tree.bare)]

/-! ### Rows of tables and views -/

/-- The value of a row under a column is one of the row, or absent. -/
theorem Relation.cellAt_mem (name : String) (columns : List (String × Affinity))
    (cells : List Cell) :
    cellAt name columns cells = .null ∨ cellAt name columns cells ∈ cells := by
  induction columns generalizing cells with
  | nil => exact .inl rfl
  | cons c cs ih =>
    cases cells with
    | nil => exact .inl rfl
    | cons v vs =>
      rw [cellAt]
      split
      · exact .inr List.mem_cons_self
      · exact (ih vs).imp_right (List.mem_cons_of_mem v)

theorem Relation.isExact_row {r : Relation} {cells : List Cell} (h : Cell.AllExact cells) :
    (r.row cells).IsExact := by
  intro column
  show (cellAt column r.columns cells).isReal = false
  obtain hnull | hmem := cellAt_mem column r.columns cells
  · rw [hnull]
    rfl
  · exact h _ hmem

theorem Cell.isReal_pairText (a b : Cell) : (Store.pairText a b).isReal = false := by
  unfold Store.pairText
  split <;> rfl

namespace Store

variable {s : Store}

/-- The rows of a table hold no floating-point number. -/
theorem FollowsSchema.isExact_table (h : s.FollowsSchema) {t : Table} (ht : t ∈ s.tables) :
    ∀ row ∈ t.relation.allRows, row.IsExact := by
  intro row hrow
  obtain ⟨cells, hcells, rfl⟩ := List.mem_map.mp hrow
  obtain ⟨⟨number, own⟩, hown, rfl⟩ := List.mem_map.mp hcells
  apply Relation.isExact_row
  intro v hv
  obtain hv | hv := List.mem_append.mp hv
  · exact h.exact_rows t ht _ hown v hv
  · obtain ⟨-, -, rfl⟩ := List.mem_map.mp hv
    rfl

theorem FollowsSchema.isExact_rowsOf (h : s.FollowsSchema) (name : String) :
    ∀ row ∈ s.rowsOf name, row.IsExact := by
  unfold rowsOf
  cases htable : s.table? name with
  | none => exact nofun
  | some t => exact h.isExact_table (mem_of_table? htable)

theorem FollowsSchema.isExact_joined (h : s.FollowsSchema) (name column : String) (v : Cell) :
    ∀ row ∈ s.joined name column v, row.IsExact :=
  fun row hrow => h.isExact_rowsOf name row (List.mem_filter.mp hrow).1

theorem FollowsSchema.allExact_memberships (h : s.FollowsSchema) :
    ∀ cells ∈ s.memberships.rows, Cell.AllExact cells := by
  intro cells hcells
  obtain ⟨link, -, hcells⟩ := List.mem_flatMap.mp hcells
  obtain ⟨user, huser, hcells⟩ := List.mem_flatMap.mp hcells
  obtain ⟨control, hcontrol, rfl⟩ := List.mem_map.mp hcells
  have huser := h.isExact_joined _ _ _ user huser
  have hcontrol := h.isExact_joined _ _ _ control hcontrol
  simp [Cell.AllExact, Cell.isReal_pairText, huser _, hcontrol _]

theorem FollowsSchema.allExact_effectivePermissions (h : s.FollowsSchema) :
    ∀ cells ∈ s.effectivePermissions.rows, Cell.AllExact cells := by
  intro cells hcells
  obtain ⟨link, hlink, hcells⟩ := List.mem_flatMap.mp (mem_distinct.mp hcells)
  obtain ⟨grant, -, hcells⟩ := List.mem_flatMap.mp hcells
  obtain ⟨permission, hpermission, rfl⟩ := List.mem_map.mp hcells
  have hlink := h.isExact_rowsOf _ link hlink
  have hpermission := h.isExact_joined _ _ _ permission hpermission
  simp [Cell.AllExact, Cell.isReal_pairText, hlink _, hpermission _]

theorem FollowsSchema.allExact_tree (h : s.FollowsSchema) :
    ∀ cells ∈ s.tree.rows, Cell.AllExact cells := by
  intro cells hcells
  obtain ⟨⟨ends, direct⟩, -, hcells⟩ := List.mem_flatMap.mp hcells
  obtain ⟨current, hcurrent, hcells⟩ := List.mem_flatMap.mp hcells
  obtain ⟨parent, hparent, rfl⟩ := List.mem_map.mp hcells
  have hcurrent := h.isExact_joined _ _ _ current hcurrent
  have hparent := h.isExact_joined _ _ _ parent hparent
  simp [Cell.AllExact, Cell.isReal_pairText, hcurrent _, hparent _]

/-- The views by their names. -/
theorem view?_eq_some {name : String} {r : Relation} (h : s.view? name = some r) :
    (name = "users_access_controls_view" ∧ r = s.memberships) ∨
      (name = "users_permissions_view" ∧ r = s.effectivePermissions) ∨
      (name = "access_controls_tree_view" ∧ r = s.tree) := by
  unfold view? at h
  split_ifs at h with _ hmemberships hpermissions htree
  · exact .inl ⟨hmemberships, (Option.some.inj h).symm⟩
  · exact .inr (.inl ⟨hpermissions, (Option.some.inj h).symm⟩)
  · exact .inr (.inr ⟨htree, (Option.some.inj h).symm⟩)

/-- What stands under a name in a store that follows the schema: a table of the schema, or one
    of the views. -/
theorem FollowsSchema.relation?_eq_some (h : s.FollowsSchema) {name : String} {r : Relation}
    (hr : s.relation? name = some r) :
    (∃ t ∈ s.tables, t.schema ∈ Schema.tables ∧
      Text.sameIgnoringCase t.schema.name name = true ∧ r = t.relation) ∨
    (name = "users_access_controls_view" ∧ r = s.memberships) ∨
    (name = "users_permissions_view" ∧ r = s.effectivePermissions) ∨
    (name = "access_controls_tree_view" ∧ r = s.tree) := by
  unfold relation? at hr
  cases htable : s.table? name with
  | some t =>
    rw [htable] at hr
    have ht := mem_of_table? htable
    exact .inl ⟨t, ht, h.schema_mem t ht, sameIgnoringCase_of_table? htable,
      (Option.some.inj hr).symm⟩
  | none =>
    rw [htable] at hr
    exact .inr (view?_eq_some hr)

/-- What stands under a name in a store that follows the schema differs from what the schema has
    there in its rows only. -/
theorem FollowsSchema.exists_mem_relations (h : s.FollowsSchema) {name : String} {r : Relation}
    (hr : s.relation? name = some r) :
    ∃ entry ∈ Schema.relations, Text.sameIgnoringCase entry.1 name = true ∧
      entry.2 = r.bare := by
  obtain ⟨t, -, ht, hname, rfl⟩ | ⟨rfl, rfl⟩ | ⟨rfl, rfl⟩ | ⟨rfl, rfl⟩ := h.relation?_eq_some hr
  · exact ⟨(t.schema.name, (Table.create t.schema).relation.bare),
      List.mem_append_left _ (List.mem_map.mpr ⟨t.schema, ht, rfl⟩), hname, rfl⟩
  · exact ⟨("users_access_controls_view", empty.memberships.bare),
      List.mem_append_right _ (.head _), by decide, rfl⟩
  · exact ⟨("users_permissions_view", empty.effectivePermissions.bare),
      List.mem_append_right _ (.tail _ (.head _)), by decide, rfl⟩
  · exact ⟨("access_controls_tree_view", empty.tree.bare),
      List.mem_append_right _ (.tail _ (.tail _ (.head _))), by decide, rfl⟩

/-- **No floating-point numbers.** No row of a table or view holds one. -/
theorem FollowsSchema.isExact (h : s.FollowsSchema) {name : String} {r : Relation}
    (hr : s.relation? name = some r) : ∀ row ∈ r.allRows, row.IsExact := by
  have hview {r : Relation} (hcells : ∀ cells ∈ r.rows, Cell.AllExact cells) :
      ∀ row ∈ r.allRows, row.IsExact := by
    intro row hrow
    obtain ⟨cells, hmem, rfl⟩ := List.mem_map.mp hrow
    exact Relation.isExact_row (hcells cells hmem)
  obtain ⟨t, ht, -, -, rfl⟩ | ⟨-, rfl⟩ | ⟨-, rfl⟩ | ⟨-, rfl⟩ := h.relation?_eq_some hr
  · exact h.isExact_table ht
  · exact hview h.allExact_memberships
  · exact hview h.allExact_effectivePermissions
  · exact hview h.allExact_tree

end Store

end FilterQuery
