import FilterQuery.Sql.Cell

namespace FilterQuery

/-!
# The schema

Eight tables hold users, access controls, permissions, libraries with their templates, and
the links between them; three views join them.  Identifiers, timestamps and members of
enumerations are texts.

Every table numbers its rows, and the number answers to a few names of its own
(`Schema.numberNames`).  The link tables show it as their first column; there, and only
there, a new number is above all that were ever given.
-/

/-- A column of a table. -/
structure Column where
  name : String
  affinity : Affinity
  required : Bool
  unique : Bool
  allowed : Option (List String)
  references : Option (String × String)

namespace Column

/-- A text column that may be absent. -/
def text (name : String) : Column := ⟨name, .text, false, false, none, none⟩

/-- The column as one that is always present. -/
def needed (c : Column) : Column := { c with required := true }

/-- The column as one without repeated values. -/
def distinct (c : Column) : Column := { c with unique := true }

/-- The column limited to some texts. -/
def among (c : Column) (names : List String) : Column := { c with allowed := some names }

/-- The column limited to the values of a column of another table. -/
def linked (c : Column) (table column : String) : Column :=
  { c with references := some (table, column) }

/-- A text column that identifies its row. -/
def key (name : String) : Column := (text name).needed.distinct

/-- A column that shows the number of its row. -/
def counter (name : String) : Column := ⟨name, .numeric, false, false, none, none⟩

end Column

/-- A table: its name and its columns.  Where `counted`, the first column is the number of
    the row. -/
structure TableSchema where
  name : String
  counted : Bool
  columns : List Column

namespace Schema

/-- The names of the number of a row, in every table. -/
def numberNames : List String := ["rowid", "oid", "_rowid_"]

/-- The columns for the timestamps of creation and of the last change. -/
def auditColumns : List Column := [(Column.text "insert_date").needed, .text "update_date"]

/-- All tables; a table stands after those that it refers to. -/
def tables : List TableSchema := [
  ⟨"users", false, [.key "usr_id", .text "email", .key "login", .text "name", .text "picture"]
    ++ auditColumns⟩,
  ⟨"access_controls", false, [.key "aco_id", (Column.text "name").needed,
    (Column.text "type").needed.among ["ROLE", "GROUP", "SCOPE"]] ++ auditColumns⟩,
  ⟨"libraries", false, [.key "lib_id", .text "url", .text "documentation_url",
    (Column.text "name").needed, (Column.text "version").needed, .text "maintainer",
    .text "description", .text "icon"] ++ auditColumns⟩,
  ⟨"library_templates", false, [.key "lit_id",
    (Column.text "lib_id").needed.linked "libraries" "lib_id", .text "documentation_url",
    (Column.text "name").needed,
    (Column.text "type").needed.among ["PROJECT", "DIAGRAM", "COMPONENT"], .text "description",
    .text "base_path", .text "plugins", .text "icon"] ++ auditColumns⟩,
  ⟨"permissions", false, [.key "per_id", (Column.text "entity").needed,
    (Column.text "action").needed.among ["ACCESS", "CREATE", "DELETE", "UPDATE"],
    (Column.text "lib_id").linked "libraries" "lib_id"] ++ auditColumns⟩,
  ⟨"access_controls_permissions", true, [.counter "pac_id",
    (Column.text "aco_id").needed.linked "access_controls" "aco_id",
    (Column.text "per_id").needed.linked "permissions" "per_id"] ++ auditColumns⟩,
  ⟨"users_access_controls", true, [.counter "uac_id",
    (Column.text "usr_id").needed.linked "users" "usr_id",
    (Column.text "aco_id").needed.linked "access_controls" "aco_id"] ++ auditColumns⟩,
  ⟨"access_controls_tree", true, [.counter "act_id",
    (Column.text "parent").needed.linked "access_controls" "aco_id",
    (Column.text "current").needed.linked "access_controls" "aco_id"] ++ auditColumns⟩]

/-- The views. -/
def views : List String :=
  ["users_access_controls_view", "users_permissions_view", "access_controls_tree_view"]

end Schema

namespace TableSchema

/-- The names that stand for the number of a row. -/
def numberNames (t : TableSchema) : List String :=
  Schema.numberNames ++ (if t.counted then (t.columns.head?.map Column.name).toList else [])

/-- Whether a name stands for the number of a row. -/
def isNumber (t : TableSchema) (name : String) : Bool :=
  t.numberNames.any fun n => Text.sameIgnoringCase n name

end TableSchema

end FilterQuery
