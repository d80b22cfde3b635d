import FilterQuery.Text.Ascii

namespace FilterQuery

/-!
# Filter operators

Each operator has a token.  Tokens are read without regard to ASCII case; the token of
`like` is a start of a literal and never stands alone.
-/

/-- What a filter value asks of a field.  `inferior`, `superior` and `between` belong to
    dates, `like` to texts. -/
inductive Operator where
  | equals
  | inferior
  | superior
  | between
  | null
  | like
  deriving DecidableEq, Repr

namespace Operator

/-- All operators. -/
def every : List Operator := [.equals, .inferior, .superior, .between, .null, .like]

/-- The token of an operator. -/
def token : Operator → String
  | .equals => "eq"
  | .inferior => "lt"
  | .superior => "gt"
  | .between => "bt"
  | .null => "null"
  | .like => "lk_"

/-- The operator with the given token. -/
def ofToken? (token : String) : Option Operator :=
  every.find? fun op => Text.sameIgnoringCase op.token token

/-- The pattern of a literal that begins with the token of `like`. -/
def likePattern? (literal : String) : Option String := Text.dropStart? like.token literal

theorem mem_every (op : Operator) : op ∈ every := by cases op <;> simp [every]

end Operator

end FilterQuery
