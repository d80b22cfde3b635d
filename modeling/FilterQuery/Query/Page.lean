import FilterQuery.Filter.Params
import FilterQuery.Number.Integer
import FilterQuery.Text.Ascii
import FilterQuery.Text.Blank

namespace FilterQuery

/-!
# Page requests

The parameters `page`, `count`, `order` and `sort` say which page of a result is wanted and
how the result is sorted; the other parameters are filters.  Pages count from zero.

* `PageRequest.ofParams` — splits the parameters;
* `PageRequest.pageIndex`, `PageRequest.pageSize`, `PageRequest.offset` — the page that is
  answered, whatever numbers were asked for.
-/

/-- What is wrong with a request for a page. -/
inductive QueryError where
  | invalidParameter (key value : String)
  | invalidSort (direction : String)
  | unknownSortField (field : String)
  deriving DecidableEq

/-- The text of a query error. -/
def QueryError.message : QueryError → String
  | .invalidParameter key value => s!"Invalid value '{value}' for query parameter '{key}'"
  | .invalidSort direction => s!"Invalid sort direction '{direction}', expected 'asc' or 'desc'"
  | .unknownSortField field => s!"Unknown sort field '{field}'"

/-- The direction of an order. -/
inductive Direction where
  | ascending
  | descending
  deriving DecidableEq, Repr

/-- The keyword of a direction. -/
def Direction.text : Direction → String
  | .ascending => "ASC"
  | .descending => "DESC"

/-- A request for a page, and for an order by a field. -/
structure PageRequest where
  page : Option Int
  count : Option Int
  order : Option String
  sort : Option String

namespace PageRequest

/-- The number of rows of a page, unless one is asked for. -/
def defaultSize : Int := 10

/-- The smallest page. -/
def minimumSize : Int := 1

/-- The largest page. -/
def maximumSize : Int := 200

/-- The last page that is answered: with the largest page size, its first row still has
    an index below `2^63`. -/
def maximumPage : Int := Bounds.signed64.high / maximumSize

/-- The parameters that are no filters. -/
def reservedKeys : List String := ["page", "count", "order", "sort"]

/-- Whether a parameter is no filter. -/
def isReserved (key : String) : Bool := key ∈ reservedKeys

/-- The nearest number between two bounds. -/
def clamp (low high n : Int) : Int := max low (min n high)

/-- The page that is answered. -/
def pageIndex (r : PageRequest) : Int := clamp 0 maximumPage (r.page.getD 0)

/-- The number of rows that the page may have. -/
def pageSize (r : PageRequest) : Int := clamp minimumSize maximumSize (r.count.getD defaultSize)

/-- The number of rows before the page. -/
def offset (r : PageRequest) : Int := r.pageIndex * r.pageSize

/-- Whether an ascending order is asked for. -/
def asksAscending (r : PageRequest) : Bool :=
  match r.sort with
  | some s => Text.sameIgnoringCase s "asc"
  | none => false

/-- The direction asked for, or the default; any text but `asc` asks for a descending
    order. -/
def direction (r : PageRequest) (default : Direction) : Direction :=
  match r.sort with
  | none => default
  | some s =>
    if (Text.trim s).isEmpty then default
    else if r.asksAscending then .ascending
    else .descending

/-- Reads a number parameter, without the white space around it. -/
def readNumber (params : Params) (key : String) : Except QueryError (Option Int) :=
  match params.get? key with
  | none => .ok none
  | some value =>
    match Bounds.signed64.read (Text.trim value) with
    | .ok n => .ok (some n)
    | .error _ => .error (.invalidParameter key value)

/-- A text parameter that is not empty. -/
def readText? (params : Params) (key : String) : Option String :=
  (params.get? key).filter fun value => !value.isEmpty

/-- The parameters that are filters. -/
def filterParams (params : Params) : Params := reservedKeys.foldl Params.erase params

/-- Splits parameters into a page request and filters. -/
def ofParams (params : Params) : Except QueryError (PageRequest × Params) := do
  let page ← readNumber params "page"
  let count ← readNumber params "count"
  let order := readText? params "order"
  let sort := readText? params "sort"
  match sort with
  | some s => unless s = "asc" ∨ s = "desc" do throw (.invalidSort s)
  | none => pure ()
  return (⟨page, count, order, sort⟩, filterParams params)

/-- The size of a page is within its bounds. -/
theorem pageSize_bounds (r : PageRequest) : 1 ≤ r.pageSize ∧ r.pageSize ≤ 200 := by
  simp only [pageSize, clamp, minimumSize, maximumSize]; omega

/-- The index of a page is within its bounds. -/
theorem pageIndex_bounds (r : PageRequest) : 0 ≤ r.pageIndex ∧ r.pageIndex ≤ maximumPage := by
  have : (0 : Int) ≤ maximumPage := by decide
  simp only [pageIndex, clamp]; omega

end PageRequest

end FilterQuery
