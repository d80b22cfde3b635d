import FilterQuery.Search.Expression
import FilterQuery.Search.Function

namespace FilterQuery.Search

/-!
# Errors of search conditions

A database refuses a condition that it cannot read, whose names or functions it does not
know, or that uses them where they have no place.  A parameter that is neither numbered
nor anonymous is refused before it gets a value.
-/

/-- Why a search condition is refused. -/
inductive SearchError where
  | unexpected (token : String)
  | unrecognized (token : String)
  | incomplete
  | tooDeep
  | placeholder
  | noTable (name : String)
  | noColumn (path : String)
  | noFunction (name : String)
  | argumentCount (function : String)
  | misuse (kind : FunctionKind) (function : String)
  | aggregate (function : String)
  | rowValue
  | noCollation (name : String)
  | rowWidth (columns : Nat)
  | raise
  | matching
  | parameterFormat (name : String)
  | parameterName (name : String)
  deriving DecidableEq

namespace FunctionKind

/-- The word for a kind of function. -/
def text : FunctionKind → String
  | .scalar => "scalar"
  | .aggregate => "aggregate"
  | .window => "window"

end FunctionKind

namespace SearchError

/-- The text of what a database reports. -/
def report : SearchError → String
  | .unexpected token => s!"near \"{token}\": syntax error"
  | .unrecognized token => s!"unrecognized token: \"{token}\""
  | .incomplete => "incomplete input"
  | .tooDeep => "Expression tree is too large (maximum depth 1000)"
  | .placeholder => "variable number must be between ?1 and ?32766"
  | .noTable name => s!"no such table: {name}"
  | .noColumn path => s!"no such column: {path}"
  | .noFunction name => s!"no such function: {name}"
  | .argumentCount function => s!"wrong number of arguments to function {function}()"
  | .misuse kind function => s!"misuse of {kind.text} function {function}()"
  | .aggregate function => s!"misuse of aggregate: {function}()"
  | .rowValue => "row value misused"
  | .noCollation name => s!"no such collation sequence: {name}"
  | .rowWidth columns => s!"sub-select returns {columns} columns - expected 1"
  | .raise => "RAISE() may only be used within a trigger-program"
  | .matching => "unable to use function MATCH in the requested context"
  | .parameterFormat name => s!"unsupported SQL parameter format: {name}"
  | .parameterName name =>
    s!"parameters with non-integer names are not currently supported: {name}"

/-- The text of an error, with what reported it. -/
def message (e : SearchError) : String :=
  match e with
  | .parameterFormat _ | .parameterName _ =>
    s!"encountered unexpected or invalid data: {e.report}"
  | e => s!"error returned from database: (code: 1) {e.report}"

end SearchError

end FilterQuery.Search
