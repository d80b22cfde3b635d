import FilterQuery.Filter.Compile
import FilterQuery.Json.Basic
import FilterQuery.Store.Select

namespace FilterQuery

/-!
# Filtered lookups

`Store.findPage` answers a request for a page of records: the reserved parameters choose
the page, the others are compiled to a predicate.  `Store.countMatching` counts the
records that parameters select, and `Store.findFirst` finds the first record on which a
predicate is true.
-/

/-- Why a lookup failed. -/
inductive LookupError where
  | filter (e : FilterError)
  | query (e : QueryError)
  | database (e : DatabaseError)
  deriving DecidableEq

/-- The text of a lookup error. -/
def LookupError.message : LookupError → String
  | .filter e => e.message
  | .query e => e.message
  | .database e => "Database error: " ++ e.message

/-- A page of records, with the number of records on all pages. -/
structure Page (as : List Attribute) where
  items : List (Record as)
  total : Nat
  page : Int
  size : Int

namespace Page

/-- A page in JSON. -/
def toJson {as : List Attribute} (p : Page as) : Json :=
  .object [("items", .array (p.items.map (Record.toJson as))), ("total", .integer p.total),
    ("page", .integer p.page), ("size", .integer p.size)]

end Page

/-- The records that rows hold, in order, up to the first that cannot be read. -/
def Record.ofRows (as : List Attribute) : List Row → Except DecodeError (List (Record as))
  | [] => .ok []
  | row :: rows =>
    match Record.ofRow row.cell as with
    | .error e => .error e
    | .ok r => (Record.ofRows as rows).map (r :: ·)

namespace Store

/-- The page of records that parameters ask for. -/
def findPage (s : Store) (order : RowOrder) (registry : Registry) (m : Model) (params : Params) :
    Except LookupError (Page m.attributes) := do
  let (request, filters) ← (PageRequest.ofParams params).mapError .query
  let p ← (Field.compile registry m.entity.distinctFields filters).mapError .filter
  let q ← ((Query.empty.filter (.predicate p)).paginate m.entity request).mapError .query
  let total ← (s.count m.entity p).mapError .database
  let rows ← (s.select order m.entity p q).mapError .database
  let items ← (Record.ofRows m.attributes rows).mapError (.database ∘ .decode)
  return ⟨items, total, request.pageIndex, request.pageSize⟩

/-- The number of records that parameters select; reserved parameters are not treated
    apart. -/
def countMatching (s : Store) (registry : Registry) (m : Model) (params : Params) :
    Except LookupError Nat := do
  let p ← (Field.compile registry m.entity.distinctFields params).mapError .filter
  (s.count m.entity p).mapError .database

/-- The number of records on which a predicate is true, and the first of them, in
    descending order of a field if one is given, else in the default order. -/
def findFirst (s : Store) (order : RowOrder) (m : Model) (p : Predicate) (field : Option String) :
    Except LookupError (Nat × Option (Record m.attributes)) := do
  let base := Query.empty.filter (.predicate p)
  let ordered ← match field with
    | some field => (base.orderBy m.entity field .descending).mapError .query
    | none => pure base
  let q := ordered.defaultOrder m.entity
  let total ← (s.count m.entity p).mapError .database
  let rows ← (s.select order m.entity p q).mapError .database
  match rows with
  | [] => return (total, none)
  | row :: _ =>
    let r ← (Record.ofRow row.cell m.attributes).mapError (.database ∘ .decode)
    return (total, some r)

end Store

end FilterQuery
