import FilterQuery.Store.Relation
import FilterQuery.Store.Schema

namespace FilterQuery

/-!
# Tables and insertion

`Store.insert` adds a row to a table unless a constraint forbids it.  Of several broken
constraints the first in this order is reported: required columns, limited columns, the
number of the row, repeated values, links.

`Store.migrate` creates what is missing of the schema.
-/

/-- A table with its rows, each under its number, and the largest number ever given to
    one. -/
structure Table where
  schema : TableSchema
  rows : List (Int × List Cell)
  lastKey : Int

/-- The tables and views that exist. -/
structure Store where
  tables : List Table
  views : List String

/-- Why a row was not inserted. -/
inductive InsertError where
  | required
  | limited
  | repeated
  | unlinked
  | other
  deriving DecidableEq, Repr

namespace Column

/-- The value that a row gives a column. -/
def given (c : Column) (row : List (String × Cell)) : Cell :=
  ((row.find? fun p => Text.sameIgnoringCase p.1 c.name).map Prod.snd).getD .null

/-- The value as the column stores it. -/
def stored (c : Column) (v : Cell) : Cell :=
  match c.affinity with
  | .text => v.toText
  | .numeric => v.toNumeric
  | .none => v

/-- Whether a value lacks where one is required. -/
def lacks (c : Column) (v : Cell) : Bool := c.required && v = .null

/-- Whether a value is none of those that are allowed. -/
def forbids (c : Column) (v : Cell) : Bool :=
  match c.allowed, v with
  | some names, .text s => s ∉ names
  | _, _ => false

end Column

namespace Table

/-- The empty table of a schema. -/
def create (schema : TableSchema) : Table := ⟨schema, [], 0⟩

/-- The table as a relation; the number of a row stands under each of its names. -/
def relation (t : Table) : Relation where
  columns := (t.schema.columns.map fun c => (c.name, c.affinity))
    ++ Schema.numberNames.map (·, .numeric)
  rows := t.rows.map fun (n, cells) => cells ++ Schema.numberNames.map fun _ => .integer n
  numberNames := t.schema.numberNames

/-- The values of a column. -/
def values (t : Table) (name : String) : List Cell :=
  t.relation.allRows.map fun row => row.cell name

/-- The numbers of the rows. -/
def numbers (t : Table) : List Int := t.rows.map Prod.fst

/-- The smallest positive number that no row has. -/
def freeNumber (t : Table) : Int :=
  (((List.range t.rows.length).map fun n : Nat => (n : Int) + 1).find? fun n => n ∉ t.numbers).getD
    (t.rows.length + 1)

/-- The number of a new row for which none is given: one more than the largest.  Where
    there is no larger one, a counted table takes no more rows, any other a free number. -/
def freshNumber (t : Table) : Except InsertError Int :=
  if t.schema.counted then
    if t.lastKey < Bounds.signed64.high then .ok (t.lastKey + 1) else .error .other
  else
    match t.numbers.max? with
    | none => .ok 1
    | some n => .ok (if n < Bounds.signed64.high then n + 1 else t.freeNumber)

/-- What a new row gives for its number, under the last name that stands for it. -/
def givenNumber (t : Table) (row : List (String × Cell)) : Cell :=
  ((row.reverse.find? fun p => t.schema.isNumber p.1).map Prod.snd).getD .null

/-- The number of a new row. -/
def newNumber (t : Table) (row : List (String × Cell)) : Except InsertError Int :=
  match (t.givenNumber row).toNumeric with
  | .null => t.freshNumber
  | c =>
    match c.integer? with
    | some n => .ok n
    | none => .error .other

/-- The error of a second row with the same number: a repeated value where the table shows
    its numbers. -/
def numberTaken (t : Table) : InsertError := if t.schema.counted then .repeated else .other

/-- The values of a new row as the columns store them. -/
def newCells (t : Table) (number : Int) (row : List (String × Cell)) : List Cell :=
  t.schema.columns.map fun c =>
    if t.schema.isNumber c.name then .integer number else c.stored (c.given row)

/-- The table with one more row. -/
def append (t : Table) (number : Int) (cells : List Cell) : Table :=
  { t with rows := t.rows ++ [(number, cells)], lastKey := max t.lastKey number }

end Table

namespace Store

/-- The store without tables. -/
def empty : Store := ⟨[], []⟩

/-- The table with the given name. -/
def table? (s : Store) (name : String) : Option Table :=
  s.tables.find? fun t => Text.sameIgnoringCase t.schema.name name

/-- The store with all tables and views, and the names of those that were missing. -/
def migrate (s : Store) : Store × List String :=
  let tables := Schema.tables.filter fun t => (s.table? t.name).isNone
  let views := Schema.views.filter fun v => v ∉ s.views
  (⟨s.tables ++ tables.map Table.create, s.views ++ views⟩,
    tables.map TableSchema.name ++ views)

/-- The store with the schema and without rows. -/
def fresh : Store := (migrate empty).1

/-- Whether a value of a link column names no row. -/
def unlinked (s : Store) (c : Column) (v : Cell) : Bool :=
  match c.references, v with
  | _, .null => false
  | none, _ => false
  | some (table, column), v =>
    match s.table? table with
    | some t => v ∉ t.values column
    | none => true

/-- The first constraint that a row would break. -/
def broken? (s : Store) (t : Table) (number : Int) (cells : List Cell) : Option InsertError :=
  let pairs := t.schema.columns.zip cells
  if pairs.any fun (c, v) => c.lacks v then some .required
  else if pairs.any fun (c, v) => c.forbids v then some .limited
  else if number ∈ t.numbers then some t.numberTaken
  else if pairs.any fun (c, v) => c.unique && v ∈ t.values c.name then some .repeated
  else if pairs.any fun (c, v) => s.unlinked c v then some .unlinked
  else none

/-- The store with a table in place of the one of its name. -/
def replace (s : Store) (t : Table) : Store :=
  { s with tables := s.tables.map fun old => if old.schema.name = t.schema.name then t else old }

/-- The store with one more row in a table. -/
def insert (s : Store) (name : String) (row : List (String × Cell)) : Except InsertError Store :=
  match s.table? name with
  | none => .error .other
  | some t =>
    if row.any fun p => !t.relation.hasColumn p.1 then .error .other
    else
      match t.newNumber row with
      | .error e => .error e
      | .ok number =>
        let cells := t.newCells number row
        match s.broken? t number cells with
        | some e => .error e
        | none => .ok (s.replace (t.append number cells))

end Store

end FilterQuery
