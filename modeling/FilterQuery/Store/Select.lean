import FilterQuery.Entity.Row
import FilterQuery.Search.Clause
import FilterQuery.Search.Evaluation
import FilterQuery.Sql.Height
import FilterQuery.Store.Order
import FilterQuery.Store.RowNumber

namespace FilterQuery

/-!
# Selecting rows

`Store.count` counts the rows of an entity on which a predicate is true, and `Store.select`
gives those rows in the order and the window of a query.  How rows stand that are equal in the
order of a query is a parameter, a `RowOrder`.

Where every name in a predicate is a plain name of a column, the predicate says what it
means.  Any other name is part of the text of a statement, which says what its words mean.
-/

/-- What a database reports. -/
inductive DatabaseError where
  | search (e : Search.SearchError)
  | decode (e : DecodeError)
  deriving DecidableEq

/-- The text of a database error. -/
def DatabaseError.message : DatabaseError → String
  | .search e => e.message
  | .decode e => e.message

namespace Query

/-- The window of the query.  A negative limit is none, and a negative offset skips
    nothing; an offset counts only where there is a limit. -/
def window (q : Query) (rows : List Row) : List Row :=
  match q.limit with
  | none => rows
  | some limit =>
    let rest := rows.drop (q.offset.getD 0).toNat
    if limit < 0 then rest else rest.take limit.toNat

/-- What stands behind the condition in the statement that reads the rows. -/
def tailText (q : Query) : String := q.orderText ++ q.limitText ++ q.offsetText

end Query

namespace Predicate

/-- Whether each name in a predicate is a plain name, and one of a column where the columns
    are known. -/
def isPlain (r : Option Relation) (p : Predicate) : Bool :=
  p.columns.all fun name => Search.isName name && r.all fun r => r.hasColumn name

/-- The text of a predicate in a statement, with numbered placeholders. -/
def numberedText (p : Predicate) : String :=
  String.join (Query.empty.filter (.predicate p)).clauses

end Predicate

namespace Store

/-- The largest height of a condition on a table or view.  A view that joins tables takes
    one level for itself. -/
def heightLimit (table : String) : Nat :=
  if table = "users_access_controls_view" ∨ table = "users_permissions_view" then 999 else 1000

/-- Rows that a statement finds, and what stands behind its condition. -/
structure Found where
  rows : List Row
  ending : Search.Ending

/-- What the names in a condition on a relation may stand for. -/
def scope (s : Store) (table : String) (r : Relation) : Search.Scope where
  table := table
  columns := r.columns.map Prod.fst
  widths := s.tables.map (fun t => (t.schema.name, t.schema.columns.length))
    ++ s.views.filterMap fun name => (s.view? name).map fun v => (name, v.columns.length)

/-- What a predicate finds whose names are plain names of columns. -/
def findPlain (s : Store) (e : Entity) (p : Predicate) : Except Search.SearchError Found :=
  if heightLimit e.table < p.height then .error .tooDeep
  else if Search.largestPlaceholder < p.binds.length then .error .placeholder
  else
    match s.relation? e.table with
    | none => .error (.noTable e.table)
    | some r => .ok ⟨r.matching (p.sought r), .tail⟩

/-- What the text of a predicate with a tail finds. -/
def findWritten (s : Store) (e : Entity) (p : Predicate) (tail : String) :
    Except Search.SearchError Found := do
  let clause ← Search.Clause.read p.numberedText tail
  if heightLimit e.table < clause.condition.height then throw .tooDeep
  match s.relation? e.table with
  | none => throw (.noTable e.table)
  | some r =>
    let sc := s.scope e.table r
    match clause.condition.fault? sc <|> clause.condition.misuse? sc
        <|> Search.parameterFault? (Search.Token.ofText p.numberedText) with
    | some error => throw error
    | none =>
      let condition := clause.condition.resolve sc
      let values := p.binds.map Value.cell
      return ⟨r.allRows.filter fun row => (condition.truth row values).isYes, clause.ending⟩

/-- What a predicate finds in the table or view of an entity. -/
def find (s : Store) (e : Entity) (p : Predicate) (tail : String) :
    Except Search.SearchError Found :=
  if p.isPlain (s.relation? e.table) then s.findPlain e p else s.findWritten e p tail

/-- The number of rows on which a predicate is true. -/
def count (s : Store) (e : Entity) (p : Predicate) : Except DatabaseError Nat :=
  match s.find e p "" with
  | .ok found => .ok found.rows.length
  | .error error => .error (.search error)

/-- The rows on which a predicate is true, in the order and window of a query. -/
def select (s : Store) (order : RowOrder) (e : Entity) (p : Predicate) (q : Query) :
    Except DatabaseError (List Row) :=
  match s.find e p q.tailText with
  | .error error => .error (.search error)
  | .ok found =>
    -- without the tail the statement asks for no order and for no window
    let unordered := order.arrange s e p .empty found.rows
    match found.ending with
    | .tail => .ok (q.window (order.arrange s e p q found.rows))
    | .nothing => .ok unordered
    | .refused error => if found.rows.isEmpty then .error (.search error) else .ok unordered

end Store

end FilterQuery
