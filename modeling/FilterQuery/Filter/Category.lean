namespace FilterQuery

/-!
# Categories of filterable fields

The category of a field says how its filter values are read and compared.
-/

/-- How the values of a field are read and compared. -/
inductive Category where
  | text
  | number
  | boolean
  | date
  | token
  | enumeration
  | identifier
  deriving DecidableEq, Repr

namespace Category

/-- All categories. -/
def every : List Category := [.text, .number, .boolean, .date, .token, .enumeration, .identifier]

/-- The name of a category, as messages show it. -/
def name : Category → String
  | .text => "text"
  | .number => "number"
  | .boolean => "boolean"
  | .date => "date"
  | .token => "token"
  | .enumeration => "enum"
  | .identifier => "identifier"

/-- The category with the given name. -/
def ofName? (name : String) : Option Category := every.find? fun c => c.name == name

/-- A category is found under its name. -/
@[simp] theorem ofName?_name (c : Category) : ofName? c.name = some c := by
  cases c <;> rfl

end Category

end FilterQuery
