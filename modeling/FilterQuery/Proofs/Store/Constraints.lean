import FilterQuery.Proofs.Store.Schema
import Mathlib.Data.List.Nodup

namespace FilterQuery

/-!
# Constraints of the schema

An insertion adds one row to one table, only where the row breaks no constraint, and it takes
no value away that a link could name.  So the constraints hold in all tables of a store that
is made by migrations and insertions.

* `Store.Keeps` — what a table demands of its columns holds in a store;
* `Store.Built.keeps` — it holds in a store that is made by migrations and insertions;
* `Store.IsKey` — a column that identifies the rows of a table;
* `Store.IsKey.joined_eq` — a join by a key finds one row;
* `Store.isKey_of_keeps`, `Store.exists_linked` — the keys and links of the schema.
-/

/-! ### Names of the schema -/

namespace Schema

/-- No two tables of the schema have names that differ in case only. -/
theorem table_ext : ∀ t ∈ Schema.tables, ∀ u ∈ Schema.tables,
    Text.sameIgnoringCase t.name u.name = true → t = u := by
  have hnodup : (Schema.tables.map fun t => t.name.toList.map Char.toLower).Nodup := by decide
  intro t ht u hu hname
  exact List.inj_on_of_nodup_map hnodup ht hu (Text.sameIgnoringCase_iff.mp hname)

/-- No two columns of a table have names that differ in case only. -/
theorem pairwise_columns : ∀ t ∈ Schema.tables,
    t.columns.Pairwise fun c d => Text.sameIgnoringCase c.name d.name = false := by decide

end Schema

/-- A row shows the value of a column under the name of the column. -/
theorem Relation.cellAt_of_mem_zip {columns : List Column} {cells : List Cell}
    (hnames : columns.Pairwise fun c d => Text.sameIgnoringCase c.name d.name = false)
    {c : Column} {v : Cell} (hv : (c, v) ∈ columns.zip cells)
    (more : List (String × Affinity)) (others : List Cell) :
    cellAt c.name ((columns.map fun c => (c.name, c.affinity)) ++ more) (cells ++ others) = v := by
  induction columns generalizing cells with
  | nil => simp at hv
  | cons d ds ih =>
    cases cells with
    | nil => simp at hv
    | cons w ws =>
      obtain ⟨hd, hds⟩ := List.pairwise_cons.mp hnames
      simp only [List.map_cons, List.cons_append, cellAt]
      obtain heq | hv := List.mem_cons.mp hv
      · obtain ⟨rfl, rfl⟩ := Prod.mk.inj heq
        rw [if_pos (Text.sameIgnoringCase_refl _)]
      · rw [hd c (List.of_mem_zip hv).1, if_neg Bool.false_ne_true]
        exact ih hds hv

/-- A column that has to identify the rows of a table. -/
def Schema.IsKey (table column : String) : Prop :=
  ∃ t ∈ tables, t.name = table ∧
    ∃ c ∈ t.columns, c.name = column ∧ c.required = true ∧ c.unique = true

/-- A column that has to name a row of another table, by a column there. -/
def Schema.IsLink (table column other key : String) : Prop :=
  ∃ t ∈ tables, t.name = table ∧
    ∃ c ∈ t.columns, c.name = column ∧ c.required = true ∧ c.references = some (other, key)

instance (table column : String) : Decidable (Schema.IsKey table column) :=
  inferInstanceAs (Decidable (∃ t ∈ Schema.tables, _))

instance (table column other key : String) : Decidable (Schema.IsLink table column other key) :=
  inferInstanceAs (Decidable (∃ t ∈ Schema.tables, _))

/-! ### Rows after an insertion -/

namespace Table

variable (t : Table) (number : Int) (row : List (String × Cell))

/-- A new row as predicates see it. -/
def newRow : Row :=
  t.relation.row (t.newCells number row ++ Schema.numberNames.map fun _ => .integer number)

theorem allRows_append : (t.append number (t.newCells number row)).relation.allRows =
    t.relation.allRows ++ [t.newRow number row] := by
  simp only [Relation.allRows, relation, append, List.map_append, List.map_cons, List.map_nil]
  rfl

/-- A new row has a value for each column. -/
theorem exists_mem_zip {c : Column} (hc : c ∈ t.schema.columns) :
    ∃ v, (c, v) ∈ t.schema.columns.zip (t.newCells number row) := by
  unfold newCells
  rw [← List.map_prod_left_eq_zip]
  exact ⟨_, List.mem_map_of_mem hc⟩

end Table

namespace Store

variable {s s' : Store}

theorem table?_congr {m n : String} (h : Text.sameIgnoringCase m n = true) :
    s.table? m = s.table? n := by
  unfold table?
  simp only [Text.sameIgnoringCase_congr h]

theorem table?_replace (s : Store) (t : Table) (n : String) :
    (s.replace t).table? n =
      (s.table? n).map fun old => if old.schema.name = t.schema.name then t else old := by
  simp only [table?, replace, List.find?_map]
  congr 2
  funext old
  show Text.sameIgnoringCase (ite _ t old).schema.name n = _
  split
  · next hname => rw [hname]
  · rfl

/-- An insertion adds its row to the table of its name and to no other. -/
theorem rowsOf_replace_append {name : String} {t : Table} (htable : s.table? name = some t)
    (number : Int) (row : List (String × Cell)) (n : String) :
    (s.replace (t.append number (t.newCells number row))).rowsOf n =
      s.rowsOf n ++
        if Text.sameIgnoringCase t.schema.name n then [t.newRow number row] else [] := by
  unfold rowsOf
  rw [table?_replace]
  split
  · next hsame =>
    -- both names find the first table of that name, which is the one that is replaced
    have hn : s.table? n = some t := by
      rw [← table?_congr hsame, table?_congr (sameIgnoringCase_of_table? htable), htable]
    rw [hn]
    simp [Table.append, ← Table.allRows_append]
  · next hother =>
    cases hn : s.table? n with
    | none => rfl
    | some old =>
      have hname : old.schema.name ≠ t.schema.name := by
        intro heq
        exact hother (heq ▸ sameIgnoringCase_of_table? hn)
      simp [Table.append, hname]

/-- A migration adds no rows. -/
theorem rowsOf_migrate (s : Store) (n : String) : s.migrate.1.rowsOf n = s.rowsOf n := by
  unfold rowsOf
  show ((List.find? _ (s.tables ++ _)).map _).getD [] = ((List.find? _ s.tables).map _).getD []
  rw [List.find?_append]
  cases List.find? (fun t : Table => Text.sameIgnoringCase t.schema.name n) s.tables with
  | some t => rfl
  | none =>
    -- a table that was missing has no rows, and one that is made has none either
    rw [Option.none_or]
    cases hnew : List.find? _ _ with
    | none => rfl
    | some t =>
      obtain ⟨schema, -, rfl⟩ := List.mem_map.mp (List.mem_of_find?_eq_some hnew)
      rfl

/-- The values under a column of a table. -/
def values (s : Store) (table column : String) : List Cell :=
  (s.rowsOf table).map fun row => row.cell column

theorem values_of_table? {n : String} {t : Table} (h : s.table? n = some t) (column : String) :
    s.values n column = t.values column := by
  unfold values rowsOf
  rw [h]
  rfl

/-! ### Constraints -/

/-- What a table demands of its columns: values where they are required, no value twice where
    each identifies its row, and links to rows that exist. -/
structure Keeps (s : Store) (t : TableSchema) : Prop where
  required : ∀ c ∈ t.columns, c.required = true → .null ∉ s.values t.name c.name
  unique : ∀ c ∈ t.columns, c.unique = true → (s.values t.name c.name).Nodup
  linked : ∀ c ∈ t.columns, ∀ target ∈ c.references, ∀ v ∈ s.values t.name c.name,
    v ≠ .null → v ∈ s.values target.1 target.2

/-- What a new value has to satisfy. -/
structure Admits (s : Store) (t : TableSchema) (c : Column) (v : Cell) : Prop where
  required : c.required = true → v ≠ .null
  unique : c.unique = true → v ∉ s.values t.name c.name
  linked : ∀ target ∈ c.references, v ≠ .null → v ∈ s.values target.1 target.2

/-- The target of a link that names a row. -/
theorem mem_values_of_unlinked {c : Column} {v : Cell} (h : s.unlinked c v = false)
    {target : String × String} (htarget : target ∈ c.references) (hv : v ≠ .null) :
    v ∈ s.values target.1 target.2 := by
  unfold unlinked at h
  rw [Option.mem_def.mp htarget] at h
  split at h
  · exact absurd rfl hv
  · next hnone _ => cases hnone
  · next hsome _ =>
    obtain rfl := Option.some.inj hsome
    split at h
    · next t htable =>
      rw [values_of_table? htable]
      simpa using h
    · cases h

/-- A row that breaks no constraint has values that can be added. -/
theorem admits_of_broken?_eq_none {name : String} {t : Table} (htable : s.table? name = some t)
    {number : Int} {cells : List Cell} (h : s.broken? t number cells = none) {c : Column}
    {v : Cell} (hv : (c, v) ∈ t.schema.columns.zip cells) : s.Admits t.schema c v := by
  have hown : s.table? t.schema.name = some t := by
    rw [table?_congr (sameIgnoringCase_of_table? htable), htable]
  unfold broken? at h
  simp only at h
  split_ifs at h with hrequired hlimited hnumber hunique hlinked
  simp only [Bool.not_eq_true, List.any_eq_false] at hrequired hunique hlinked
  constructor
  · intro hc hnull
    have := hrequired _ hv
    simp [Column.lacks, hc, hnull] at this
  · intro hc hmem
    rw [values_of_table? hown] at hmem
    have := hunique _ hv
    simp [hc, hmem] at this
  · intro target htarget hnull
    exact mem_values_of_unlinked (hlinked _ hv) htarget hnull

/-- After an insertion a column has the values that it had, and at most one more. -/
theorem values_insert (hs : s.FollowsSchema) {name : String} {row : List (String × Cell)}
    (hinsert : s.insert name row = .ok s') {t : TableSchema} (ht : t ∈ Schema.tables)
    {c : Column} (hc : c ∈ t.columns) :
    s'.values t.name c.name = s.values t.name c.name ∨
      ∃ v, s.Admits t c v ∧ s'.values t.name c.name = s.values t.name c.name ++ [v] := by
  obtain ⟨u, number, htable, hbroken, rfl⟩ := insert_eq_ok hinsert
  unfold values
  rw [rowsOf_replace_append htable]
  split
  · next hname =>
    obtain rfl := Schema.table_ext _ (hs.schema_mem u (mem_of_table? htable)) t ht hname
    obtain ⟨v, hv⟩ := u.exists_mem_zip number row hc
    refine .inr ⟨v, admits_of_broken?_eq_none htable hbroken hv, ?_⟩
    have hshown : (u.newRow number row).cell c.name = v :=
      Relation.cellAt_of_mem_zip (Schema.pairwise_columns _ ht) hv _ _
    simp [hshown]
  · exact .inl (by simp)

/-- An insertion takes no value away. -/
theorem values_subset_insert {name : String} {row : List (String × Cell)}
    (hinsert : s.insert name row = .ok s') (n column : String) :
    s.values n column ⊆ s'.values n column := by
  obtain ⟨u, number, htable, -, rfl⟩ := insert_eq_ok hinsert
  unfold values
  rw [rowsOf_replace_append htable, List.map_append]
  exact List.subset_append_left _ _

/-- An insertion keeps what a table demands. -/
theorem Keeps.insert {t : TableSchema} (ht : t ∈ Schema.tables) (hs : s.FollowsSchema)
    (h : s.Keeps t) {name : String} {row : List (String × Cell)}
    (hinsert : s.insert name row = .ok s') : s'.Keeps t := by
  constructor
  · intro c hc hrequired
    obtain heq | ⟨v, hadmits, heq⟩ := values_insert hs hinsert ht hc
    · rw [heq]
      exact h.required c hc hrequired
    · rw [heq]
      simp [h.required c hc hrequired, (hadmits.required hrequired).symm]
  · intro c hc hunique
    obtain heq | ⟨v, hadmits, heq⟩ := values_insert hs hinsert ht hc
    · rw [heq]
      exact h.unique c hc hunique
    · rw [heq]
      rw [← List.concat_eq_append]
      exact (h.unique c hc hunique).concat (hadmits.unique hunique)
  · intro c hc target htarget v hv hnull
    apply values_subset_insert hinsert
    obtain heq | ⟨w, hadmits, heq⟩ := values_insert hs hinsert ht hc
    · exact h.linked c hc target htarget v (heq ▸ hv) hnull
    · rw [heq] at hv
      obtain hv | hv := List.mem_append.mp hv
      · exact h.linked c hc target htarget v hv hnull
      · obtain rfl := List.mem_singleton.mp hv
        exact hadmits.linked target htarget hnull

/-- A migration keeps what a table demands. -/
theorem Keeps.migrate {t : TableSchema} (h : s.Keeps t) : s.migrate.1.Keeps t := by
  have hvalues (n column : String) : s.migrate.1.values n column = s.values n column := by
    unfold values
    rw [rowsOf_migrate]
  constructor
  · simpa only [hvalues] using h.required
  · simpa only [hvalues] using h.unique
  · simpa only [hvalues] using h.linked

/-- **Constraints.** Migrations and insertions keep what the tables of the schema demand. -/
theorem Built.keeps (h : s.Built) : ∀ t ∈ Schema.tables, s.Keeps t := by
  induction h with
  | empty =>
    intro t _
    exact ⟨fun _ _ _ => List.not_mem_nil, fun _ _ _ => List.nodup_nil, fun _ _ _ _ => nofun⟩
  | migrate _ ih =>
    intro t ht
    exact (ih t ht).migrate
  | insert h hinsert ih =>
    intro t ht
    exact (ih t ht).insert ht h.followsSchema hinsert

/-- A fresh store with those of some rows that can be inserted, one after the other. -/
def withRows (rows : List (String × List (String × Cell))) : Store :=
  rows.foldl (fun s row => (s.insert row.1 row.2).toOption.getD s) fresh

theorem built_withRows (rows : List (String × List (String × Cell))) : (withRows rows).Built := by
  have hfresh : fresh.Built := .migrate .empty
  unfold withRows
  generalize fresh = s at hfresh
  induction rows generalizing s with
  | nil => exact hfresh
  | cons row rest ih =>
    apply ih
    show ((s.insert row.1 row.2).toOption.getD s).Built
    cases hinsert : s.insert row.1 row.2 with
    | ok s' => exact hfresh.insert hinsert
    | error e => exact hfresh

/-! ### Keys -/

/-- A column with a value in each row of a table, and with no value twice. -/
structure IsKey (s : Store) (table column : String) : Prop where
  present : .null ∉ s.values table column
  nodup : (s.values table column).Nodup

theorem IsKey.cell_ne_null {table column : String} (h : s.IsKey table column) {row : Row}
    (hrow : row ∈ s.rowsOf table) : row.cell column ≠ .null := by
  intro hnull
  exact h.present (hnull ▸ List.mem_map_of_mem hrow)

/-- Two rows with the same key are one. -/
theorem IsKey.eq_of_cell_eq {table column : String} (h : s.IsKey table column) {a b : Row}
    (ha : a ∈ s.rowsOf table) (hb : b ∈ s.rowsOf table) (heq : a.cell column = b.cell column) :
    a = b :=
  List.inj_on_of_nodup_map h.nodup ha hb heq

theorem mem_joined {table column : String} {v : Cell} {row : Row} :
    row ∈ s.joined table column v ↔
      row ∈ s.rowsOf table ∧ v ≠ .null ∧ row.cell column = v := by
  simp [joined]

/-- Of rows with different values under a column, one has the value of a given row. -/
theorem filter_cell_eq {rows : List Row} {column : String}
    (hnodup : (rows.map fun row => row.cell column).Nodup) {row : Row} (hrow : row ∈ rows) :
    rows.filter (fun other => other.cell column = row.cell column) = [row] := by
  induction rows with
  | nil => cases hrow
  | cons first rest ih =>
    obtain ⟨hfirst, hrest⟩ := List.nodup_cons.mp hnodup
    have hne (other : Row) (hother : other ∈ rest) : other.cell column ≠ first.cell column := by
      intro heq
      exact hfirst (List.mem_map.mpr ⟨other, hother, heq⟩)
    obtain rfl | hmem := List.mem_cons.mp hrow
    · have hnone : rest.filter (fun other => other.cell column = row.cell column) = [] :=
        List.filter_eq_nil_iff.mpr fun other hother => by simpa using hne other hother
      rw [List.filter_cons_of_pos (by simp), hnone]
    · rw [List.filter_cons_of_neg (by simpa using (hne row hmem).symm)]
      exact ih hrest hmem

/-- A join by a key finds the row with the value, and no other. -/
theorem IsKey.joined_eq {table column : String} (h : s.IsKey table column) {row : Row}
    (hrow : row ∈ s.rowsOf table) : s.joined table column (row.cell column) = [row] := by
  rw [← filter_cell_eq h.nodup hrow, joined]
  simp [h.cell_ne_null hrow]

/-- The keys of the schema identify rows. -/
theorem isKey_of_keeps (hs : ∀ t ∈ Schema.tables, s.Keeps t) {table column : String}
    (h : Schema.IsKey table column) : s.IsKey table column := by
  obtain ⟨t, ht, rfl, c, hc, rfl, hrequired, hunique⟩ := h
  exact ⟨(hs t ht).required c hc hrequired, (hs t ht).unique c hc hunique⟩

/-- The links of the schema lead to rows. -/
theorem exists_linked (hs : ∀ t ∈ Schema.tables, s.Keeps t) {table column other key : String}
    (h : Schema.IsLink table column other key) {row : Row} (hrow : row ∈ s.rowsOf table) :
    ∃ target ∈ s.rowsOf other, target.cell key = row.cell column := by
  obtain ⟨t, ht, rfl, c, hc, rfl, hrequired, hlink⟩ := h
  have hmem : row.cell c.name ∈ s.values t.name c.name := List.mem_map_of_mem hrow
  have hpresent : row.cell c.name ≠ .null := by
    intro hnull
    exact (hs t ht).required c hc hrequired (hnull ▸ hmem)
  exact List.mem_map.mp ((hs t ht).linked c hc (other, key) hlink _ hmem hpresent)

end Store

end FilterQuery
