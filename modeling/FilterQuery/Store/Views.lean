import FilterQuery.Store.Closure
import FilterQuery.Store.Table

namespace FilterQuery

/-!
# Views

* `Store.memberships` — the access controls of each user, once for each link;
* `Store.effectivePermissions` — the permissions of each user over all access controls of
  the user, without repetitions;
* `Store.tree` — the pairs of access controls joined by a path of links, with a mark on
  those that are linked directly.
-/

namespace Store

/-- The rows of a table; none where there is no such table. -/
def rowsOf (s : Store) (name : String) : List Row :=
  ((s.table? name).map fun t => t.relation.allRows).getD []

/-- The rows whose column holds a value. -/
def joined (s : Store) (name column : String) (v : Cell) : List Row :=
  (s.rowsOf name).filter fun row => v ≠ .null ∧ row.cell column = v

/-- Two texts with an underscore between them; absent where one of them is. -/
def pairText (a b : Cell) : Cell :=
  match a.text?, b.text? with
  | some s, some t => .text (s ++ "_" ++ t)
  | _, _ => .null

/-- Columns that prefer texts. -/
def textColumns (names : List String) : List (String × Affinity) := names.map (·, .text)

/-- The access controls of each user, once for each link. -/
def memberships (s : Store) : Relation where
  columns := ("usa_id", .none) :: textColumns ["usr_id", "email", "login", "user_name", "aco_id",
    "access_control_name", "type"]
  rows :=
    (s.rowsOf "users_access_controls").flatMap fun link =>
      (s.joined "users" "usr_id" (link.cell "usr_id")).flatMap fun user =>
        (s.joined "access_controls" "aco_id" (link.cell "aco_id")).map fun control =>
          [pairText (link.cell "usr_id") (link.cell "aco_id"), user.cell "usr_id",
            user.cell "email", user.cell "login", user.cell "name", control.cell "aco_id",
            control.cell "name", control.cell "type"]

/-- The permissions of each user, without repetitions. -/
def effectivePermissions (s : Store) : Relation where
  columns := ("usp_id", .none) :: textColumns ["usr_id", "per_id", "entity", "action", "lib_id",
    "insert_date", "update_date"]
  rows := distinct <|
    (s.rowsOf "users_access_controls").flatMap fun link =>
      (s.joined "access_controls_permissions" "aco_id" (link.cell "aco_id")).flatMap fun grant =>
        (s.joined "permissions" "per_id" (grant.cell "per_id")).map fun permission =>
          [pairText (link.cell "usr_id") (permission.cell "per_id"), link.cell "usr_id",
            permission.cell "per_id", permission.cell "entity", permission.cell "action",
            permission.cell "lib_id", permission.cell "insert_date",
            permission.cell "update_date"]

/-- The links of the tree, each from an access control to its parent. -/
def treeLinks (s : Store) : List (Cell × Cell) :=
  (s.rowsOf "access_controls_tree").map fun row => (row.cell "current", row.cell "parent")

/-- The pairs of access controls joined by a path of links, each once. -/
def tree (s : Store) : Relation where
  columns := [("aca_id", .none)]
    ++ textColumns ["aco_id", "type", "name", "parent", "parent_name", "parent_type"]
    ++ [("direct", .none)]
  rows :=
    (closure s.treeLinks).flatMap fun (ends, direct) =>
      (s.joined "access_controls" "aco_id" ends.1).flatMap fun current =>
        (s.joined "access_controls" "aco_id" ends.2).map fun parent =>
          [pairText ends.1 ends.2, current.cell "aco_id", current.cell "type",
            current.cell "name", parent.cell "aco_id", parent.cell "name", parent.cell "type",
            .integer (if direct then 1 else 0)]

/-- The view with the given name. -/
def view? (s : Store) (name : String) : Option Relation :=
  if name ∉ s.views then none
  else if name = "users_access_controls_view" then some s.memberships
  else if name = "users_permissions_view" then some s.effectivePermissions
  else if name = "access_controls_tree_view" then some s.tree
  else none

/-- The table or view with the given name. -/
def relation? (s : Store) (name : String) : Option Relation :=
  (s.table? name).map Table.relation <|> s.view? name

end Store

end FilterQuery
