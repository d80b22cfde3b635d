import FilterQuery.Filter.Alternative
import FilterQuery.Filter.Date
import FilterQuery.Filter.Enumeration
import FilterQuery.Sql.Predicate

namespace FilterQuery

/-!
# Kinds of filters

A field is filtered by its category, or strictly by the members of an enumeration.  Each
kind of filter fixes

* `Operand` — the type of the values it reads;
* `readLiteral` — how a literal becomes an operator and such a value;
* `subject` — what is compared: the column, or a conversion of it;
* `valuePredicate` — the predicate of one operator and one value.

Texts are compared in upper case, and in their patterns `*` stands for any run of
characters.  A truth value is true exactly for the literal `true`, in any ASCII case.
-/

/-- How a field is filtered. -/
inductive FilterKind where
  | text
  | number
  | boolean
  | date
  | token
  | enumeration
  | identifier
  | strict (e : Enumeration)
  deriving DecidableEq

namespace FilterKind

/-- The kind of filter that belongs to a category. -/
def ofCategory : Category → FilterKind
  | .text => .text
  | .number => .number
  | .boolean => .boolean
  | .date => .date
  | .token => .token
  | .enumeration => .enumeration
  | .identifier => .identifier

/-- The category that a kind of filter counts as. -/
def category : FilterKind → Category
  | .text => .text
  | .number => .number
  | .boolean => .boolean
  | .date => .date
  | .token => .token
  | .enumeration => .enumeration
  | .identifier => .identifier
  | .strict _ => .enumeration

/-- The name under which a kind of filter reports errors. -/
def typeName : FilterKind → String
  | .strict e => e.typeName
  | k => k.category.name

/-- The values that a kind of filter reads. -/
abbrev Operand : FilterKind → Type
  | .text | .token | .enumeration | .strict _ => String
  | .number => Int
  | .boolean => Bool
  | .date => DateOperand
  | .identifier => Uuid

/-- The pattern of the database for a client's pattern: `*` becomes `%`, and ASCII
    letters are put in upper case. -/
def likePattern (pattern : String) : String :=
  Text.upper (pattern.map fun c => if c = '*' then '%' else c)

/-- Reads a text literal: a pattern after the token of `like`, else a plain text. -/
def readText (literal : String) : Operator × String :=
  match Operator.likePattern? literal with
  | some pattern => (.like, likePattern pattern)
  | none => (.equals, Text.upper literal)

/-- Reads a literal for the given field. -/
def readLiteral (k : FilterKind) (field literal : String) :
    Except FilterError (Operator × k.Operand) :=
  match k with
  | .text => .ok (readText literal)
  | .number =>
    match Bounds.signed64.read literal with
    | .ok n => .ok (.equals, n)
    | .error e => .error (.wrongValue field Category.number.name literal (some (.integer e)))
  | .boolean => .ok (.equals, Text.sameIgnoringCase literal "true")
  | .date => DateOperand.read field literal
  | .token => .ok (.equals, literal)
  | .enumeration => .ok (.equals, literal)
  | .identifier =>
    match Uuid.readHyphenated literal with
    | .ok u => .ok (.equals, u)
    | .error e =>
      .error (.wrongValue field Category.identifier.name literal (some (.identifier e)))
  | .strict e => (e.read field literal).map (Operator.equals, ·)

/-- What the values of a kind of filter are compared with. -/
def subject (k : FilterKind) (column : String) : Expr :=
  match k with
  | .text => .upper (.column column)
  | .enumeration => .asText (.column column)
  | _ => .column column

/-- The predicate of an operator and a value, or the error that this kind of filter does
    not have the operator. -/
def valuePredicate (k : FilterKind) (e : Expr) (op : Operator) (negated : Bool)
    (v : k.Operand) : Except FilterError Predicate :=
  match k, op, v with
  | .text, .equals, v => .ok (.equal e (.text v) negated)
  | .text, .like, v => .ok (.test (.like e v negated))
  | .number, .equals, v => .ok (.equal e (.integer v) negated)
  | .boolean, .equals, v => .ok (.equal e (.boolean v) negated)
  | .date, .equals, .at t => .ok (.equal e (.timestamp t) negated)
  | .date, .inferior, .at t => .ok (.signed negated (.compare e .less (.timestamp t)))
  | .date, .superior, .at t => .ok (.signed negated (.compare e .greater (.timestamp t)))
  | .date, .between, .range a b =>
    .ok (.test (.between e (.timestamp a) (.timestamp b) negated))
  | .token, .equals, v => .ok (.equal e (.text v) negated)
  | .enumeration, .equals, v => .ok (.equal e (.text v) negated)
  | .identifier, .equals, v => .ok (.equal e (.identifier v) negated)
  | .strict _, .equals, v => .ok (.equal e (.text v) negated)
  | _, op, _ => .error (.unsupported op)

/-- A kind that belongs to a category counts as that category. -/
@[simp] theorem category_ofCategory (c : Category) : (ofCategory c).category = c := by
  cases c <;> rfl

end FilterKind

end FilterQuery
