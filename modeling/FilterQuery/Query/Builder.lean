import FilterQuery.Entity.Basic
import FilterQuery.Query.Page
import FilterQuery.Sql.Printer

namespace FilterQuery

/-!
# Queries

A `Query` collects filters, an order and a window.  Each filter adds conditions to the
`WHERE` clause and values for its placeholders.  Placeholders are numbered when a filter
is added, so that `?k` belongs to the `k`-th value.

* `Query.filter` — adds a filter: a predicate, or conditions written as text;
* `Query.orderBy`, `Query.defaultOrder`, `Query.paginate`, `Query.withLimit`,
  `Query.withOffset` — set the order and the window;
* `Query.text`, `Query.countText` — the statements.
-/

/-- A filter of a query. -/
inductive QueryFilter where
  | predicate (p : Predicate)
  | written (conditions : List String) (values : List Value)

namespace QueryFilter

/-- The conditions of a filter, with unnumbered placeholders.  A predicate that selects
    everything has none. -/
def conditions : QueryFilter → List String
  | .predicate p => if p.isAlways then [] else [p.text]
  | .written conditions _ => conditions

/-- The values of a filter. -/
def values : QueryFilter → List Value
  | .predicate p => if p.isAlways then [] else p.binds
  | .written _ values => values

/-- Whether a filter adds nothing. -/
def isEmpty : QueryFilter → Bool
  | .predicate p => p.isAlways
  | .written conditions _ => conditions.isEmpty

end QueryFilter

/-- A column to sort by, and the keyword of the direction. -/
structure SortKey where
  column : String
  direction : String
  deriving DecidableEq

/-- The text of a sort key. -/
def SortKey.text (k : SortKey) : String := k.column ++ " " ++ k.direction

/-- Filters, an order and a window. -/
structure Query where
  clauses : List String
  values : List Value
  parameters : Nat
  order : Option SortKey
  limit : Option Int
  offset : Option Int

/-- Whether a text begins with an ASCII digit. -/
def startsWithDigit : List Char → Bool
  | [] => false
  | c :: _ => c.isDigit

/-- Numbers the placeholders of a text that have no number yet, counting on from `count`;
    gives the text and the new count. -/
def numberPlaceholders (count : Nat) : List Char → List Char × Nat
  | [] => ([], count)
  | c :: cs =>
    if c = '?' ∧ ¬startsWithDigit cs then
      let (rest, total) := numberPlaceholders (count + 1) cs
      ('?' :: Nat.toDigits 10 (count + 1) ++ rest, total)
    else
      let (rest, total) := numberPlaceholders count cs
      (c :: rest, total)

/-- Numbers the placeholders of several conditions, one after the other. -/
def numberConditions (count : Nat) : List String → List String × Nat
  | [] => ([], count)
  | s :: rest =>
    let (cs, next) := numberPlaceholders count s.toList
    let (others, total) := numberConditions next rest
    (String.ofList cs :: others, total)

namespace Query

/-- The query for all rows. -/
def empty : Query := ⟨[], [], 0, none, none, none⟩

/-- The query with one more filter. -/
def filter (q : Query) (f : QueryFilter) : Query :=
  if f.isEmpty then q
  else
    let (clauses, parameters) := numberConditions q.parameters f.conditions
    { q with
      clauses := q.clauses ++ clauses
      values := q.values ++ f.values
      parameters := parameters }

/-- The column that a sort field names: a column of the entity, or else the column of a
    filter key. -/
def resolveColumn? (e : Entity) (field : String) : Option String :=
  if field ∈ e.columns then some field else (e.field? field).map Field.column

/-- The query in the order of a field. -/
def orderBy (q : Query) (e : Entity) (field : String) (direction : Direction) :
    Except QueryError Query :=
  match resolveColumn? e field with
  | some column => .ok { q with order := some ⟨column, direction.text⟩ }
  | none => .error (.unknownSortField field)

/-- The query in the default order of the entity, unless it has an order. -/
def defaultOrder (q : Query) (e : Entity) : Query :=
  match q.order with
  | some _ => q
  | none => { q with order := some ⟨e.defaultSort, e.defaultDirection⟩ }

/-- The query for at most so many rows. -/
def withLimit (q : Query) (limit : Int) : Query := { q with limit := some limit }

/-- The query without so many first rows. -/
def withOffset (q : Query) (offset : Int) : Query := { q with offset := some offset }

/-- The direction in which an entity is sorted by default. -/
def defaultDirection (e : Entity) : Direction :=
  if Text.sameIgnoringCase e.defaultDirection "DESC" then .descending else .ascending

/-- The query for a page, in the order asked for or the default order. -/
def paginate (q : Query) (e : Entity) (r : PageRequest) : Except QueryError Query := do
  let sorted ← q.orderBy e (r.order.getD e.defaultSort) (r.direction (defaultDirection e))
  return (sorted.withLimit r.pageSize).withOffset r.offset

/-- The `WHERE` clause; several conditions stand in parentheses each. -/
def whereText (q : Query) : String :=
  match q.clauses with
  | [] => ""
  | [clause] => " WHERE " ++ clause
  | clauses => " WHERE " ++ " AND ".intercalate (clauses.map fun c => "(" ++ c ++ ")")

/-- The `ORDER BY` clause. -/
def orderText (q : Query) : String :=
  match q.order with
  | some k => " ORDER BY " ++ k.text
  | none => ""

/-- The `LIMIT` clause. -/
def limitText (q : Query) : String :=
  match q.limit with
  | some n => " LIMIT " ++ toString n
  | none => ""

/-- The `OFFSET` clause, which is left out where it would skip nothing. -/
def offsetText (q : Query) : String :=
  match q.offset with
  | some n => if 0 < n then " OFFSET " ++ toString n else ""
  | none => ""

/-- The statement that reads the rows. -/
def text (q : Query) (e : Entity) : String :=
  e.selectText ++ q.whereText ++ q.orderText ++ q.limitText ++ q.offsetText

/-- The statement that counts the rows, without regard to the window. -/
def countText (q : Query) (e : Entity) : String := e.countText ++ q.whereText

/-- A query for a page is a query in an order, with a window. -/
theorem paginate_eq (q : Query) (e : Entity) (r : PageRequest) :
    q.paginate e r =
      (q.orderBy e (r.order.getD e.defaultSort) (r.direction (defaultDirection e))).map
        fun sorted => (sorted.withLimit r.pageSize).withOffset r.offset := by
  unfold paginate
  cases q.orderBy e (r.order.getD e.defaultSort) (r.direction (defaultDirection e)) <;> rfl

end Query

end FilterQuery
