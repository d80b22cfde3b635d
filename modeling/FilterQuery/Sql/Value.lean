import FilterQuery.Calendar.Printer
import FilterQuery.Identifier.Basic
import FilterQuery.Number.Binary64

namespace FilterQuery

/-!
# Values bound to a statement

A statement holds placeholders; the values that belong to them are kept apart from its
text.  A `Value` is one of those, typed by what it means rather than by how the database
stores it (`Sql.Cell`).
-/

/-- A value that a placeholder stands for. -/
inductive Value where
  | text (s : String)
  | integer (n : Int)
  | real (x : Binary64)
  | boolean (b : Bool)
  | identifier (u : Uuid)
  | timestamp (t : Timestamp)
  | null
  deriving DecidableEq

end FilterQuery
