import FilterQuery.Sql.Meaning

namespace FilterQuery

/-!
# Relations

A `Relation` is a table or view as queries see it: named columns, each with the kind of
values it prefers, and rows with one value for each column.  Column names ignore ASCII
case.
-/

/-- Named columns and the rows under them.  Some of the names may stand for the number of
    a row, by which it is found without a search. -/
structure Relation where
  columns : List (String × Affinity)
  rows : List (List Cell)
  numberNames : List String := []

namespace Relation

/-- Whether a relation has a column. -/
def hasColumn (r : Relation) (name : String) : Bool :=
  r.columns.any fun c => Text.sameIgnoringCase c.1 name

/-- Whether a name stands for the number of a row. -/
def isNumber (r : Relation) (name : String) : Bool :=
  r.numberNames.any fun n => Text.sameIgnoringCase n name

/-- The value of a row under a column. -/
def cellAt (name : String) : List (String × Affinity) → List Cell → Cell
  | c :: cs, v :: vs => if Text.sameIgnoringCase c.1 name then v else cellAt name cs vs
  | _, _ => .null

/-- The preference of a column. -/
def affinityOf (name : String) : List (String × Affinity) → Affinity
  | c :: cs => if Text.sameIgnoringCase c.1 name then c.2 else affinityOf name cs
  | [] => .none

/-- A row as predicates see it. -/
def row (r : Relation) (cells : List Cell) : Row where
  cell name := cellAt name r.columns cells
  affinity name := affinityOf name r.columns

/-- The rows as predicates see them. -/
def allRows (r : Relation) : List Row := r.rows.map r.row

/-- The rows on which a predicate is true. -/
def matching (r : Relation) (p : Predicate) : List Row :=
  r.allRows.filter fun row => (p.truth row).isYes

end Relation

end FilterQuery
