import FilterQuery.Filter.Error
import FilterQuery.Filter.Category
import FilterQuery.Text.Digit

namespace FilterQuery

/-!
# Date literals

| literal          | meaning                  |
|------------------|--------------------------|
| `<date>`         | at that time             |
| `eq<date>`       | at that time             |
| `lt<date>`       | strictly before          |
| `gt<date>`       | strictly after           |
| `<date>bt<date>` | within, ends included    |

An operator is any two ASCII letters in front of a text that begins like a day,
`dddd-dd-dd`; of several, the leftmost counts.  A literal with a line break has none.

* `DateShape.ofLiteral` — the parts of a literal, before any date is read;
* `DateOperand.read` — the operator and the timestamps of a literal.
-/

/-- What a date field is compared with. -/
inductive DateOperand where
  | at (t : Timestamp)
  | range (first last : Timestamp)
  deriving DecidableEq

/-- The parts of a date literal.  Dates are texts that have still to be read. -/
inductive DateShape where
  | at (op : Operator) (date : List Char)
  | range (first last : List Char)
  | missingBound
  | wrongOperator
  deriving DecidableEq

/-- The text after `dddd-dd-dd`, with digits of any script, if a text begins so. -/
def afterDay? : List Char → Option (List Char)
  | y₁ :: y₂ :: y₃ :: y₄ :: '-' :: m₁ :: m₂ :: '-' :: d₁ :: d₂ :: rest =>
    if [y₁, y₂, y₃, y₄, m₁, m₂, d₁, d₂].all Text.isDecimalDigit then some rest else none
  | _ => none

/-- Whether a text begins with `dddd-dd-dd`. -/
def startsWithDay (cs : List Char) : Bool := (afterDay? cs).isSome

namespace DateShape

/-- The text before the leftmost operator, the operator, and the text after it. -/
def splitOperator? : List Char → Option (List Char × String × List Char)
  | a :: b :: rest =>
    if a.isAlpha && b.isAlpha && startsWithDay rest then some ([], String.ofList [a, b], rest)
    else (splitOperator? (b :: rest)).map fun (start, op, last) => (a :: start, op, last)
  | _ => none

/-- Whether a text is a day followed by anything that ends in the operator of a range. -/
def isOpenRange (cs : List Char) : Bool :=
  match afterDay? cs with
  | some rest =>
    rest.length ≥ 2
      && Text.sameIgnoringCase (String.ofList (rest.drop (rest.length - 2))) Operator.between.token
  | none => false

/-- The shape of a literal in which no operator stands before a day. -/
def ofPlain (cs : List Char) : DateShape :=
  if isOpenRange cs then .missingBound else .at .equals cs

/-- The shape of a literal with an operator between two texts. -/
def ofSplit (start : List Char) (op : Option Operator) (last : List Char) : DateShape :=
  match op, start with
  | some .between, [] => .missingBound
  | some .between, start => .range start last
  | some .equals, [] => .at .equals last
  | some .inferior, [] => .at .inferior last
  | some .superior, [] => .at .superior last
  | _, _ => .wrongOperator

/-- The shape of a literal. -/
def ofLiteral (cs : List Char) : DateShape :=
  if '\n' ∈ cs then .at .equals cs
  else
    match splitOperator? cs with
    | some (start, op, last) => ofSplit start (Operator.ofToken? op) last
    | none => ofPlain cs

end DateShape

namespace DateOperand

/-- Reads one date of a literal; the error shows the whole literal. -/
def readDate (field literal : String) (date : List Char) : Except FilterError Timestamp :=
  (Timestamp.read (String.ofList date)).mapError fun e =>
    .wrongValue field Category.date.name literal (some (.timestamp e))

/-- Reads the dates of a literal of the given shape. -/
def ofShape (field literal : String) : DateShape → Except FilterError (Operator × DateOperand)
  | .at op date => do
    let t ← readDate field literal date
    return (op, .at t)
  | .range first last => do
    let a ← readDate field literal first
    let b ← readDate field literal last
    return (.between, .range a b)
  | .missingBound => .error (.emptyValue field Category.date.name literal)
  | .wrongOperator => .error (.wrongOperator field literal)

/-- Reads a date literal. -/
def read (field literal : String) : Except FilterError (Operator × DateOperand) :=
  ofShape field literal (DateShape.ofLiteral literal.toList)

end DateOperand

end FilterQuery
