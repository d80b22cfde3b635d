import FilterQuery.Sql.Value

namespace FilterQuery

/-!
# Predicates over the columns of a row

A `Condition` tests one expression against bound values; a `Predicate` combines
conditions with the connectives of logic.  The constructors `all` and `any` hold their
operands as they are; `Predicate.allOf` and `Predicate.anyOf` build a conjunction and a
disjunction without needless nodes:

* `allOf` drops operands that select everything and merges operands that are
  conjunctions themselves;
* `anyOf` merges operands that are disjunctions, and selects everything as soon as one
  operand does;
* both return a single operand as it is.
-/

/-- What a condition tests: a column, or a column seen through a conversion. -/
inductive Expr where
  | column (name : String)
  | upper (e : Expr)
  | asText (e : Expr)
  deriving DecidableEq

/-- How two values are compared. -/
inductive Comparison where
  | equal
  | notEqual
  | less
  | greater
  deriving DecidableEq, Repr

/-- A test of one expression.  `negated` turns a test into its negation. -/
inductive Condition where
  | compare (e : Expr) (op : Comparison) (v : Value)
  | like (e : Expr) (pattern : String) (negated : Bool)
  | isNull (e : Expr) (negated : Bool)
  | member (e : Expr) (vs : List Value) (negated : Bool)
  | between (e : Expr) (low high : Value) (negated : Bool)
  deriving DecidableEq

/-- Conditions combined by the connectives of logic; `always` selects everything. -/
inductive Predicate where
  | always
  | test (c : Condition)
  | all (ps : List Predicate)
  | any (ps : List Predicate)
  | negate (p : Predicate)

namespace Predicate

/-- The comparison of an expression with a value. -/
def compare (e : Expr) (op : Comparison) (v : Value) : Predicate := .test (.compare e op v)

/-- `e = v`, or `e <> v` where negated. -/
def equal (e : Expr) (v : Value) (negated : Bool) : Predicate :=
  .test (.compare e (if negated then .notEqual else .equal) v)

/-- The predicate itself, or its negation where negated. -/
def signed (negated : Bool) (p : Predicate) : Predicate := if negated then .negate p else p

/-- Whether the predicate is `always`. -/
def isAlways : Predicate → Bool
  | .always => true
  | _ => false

/-- Whether the predicate is a conjunction or disjunction node. -/
def isJoined : Predicate → Bool
  | .all _ | .any _ => true
  | _ => false

/-- The operands that a conjunction takes from one of its own operands. -/
def conjuncts : Predicate → List Predicate
  | .always => []
  | .all ps => ps
  | p => [p]

/-- The operands that a disjunction takes from one of its own operands. -/
def disjuncts : Predicate → List Predicate
  | .any ps => ps
  | p => [p]

/-- The conjunction of the operands. -/
def allOf (ps : List Predicate) : Predicate :=
  match ps.flatMap conjuncts with
  | [] => .always
  | [p] => p
  | flat => .all flat

/-- The disjunction of the operands. -/
def anyOf (ps : List Predicate) : Predicate :=
  let flat := ps.flatMap disjuncts
  if flat.any isAlways then .always
  else
    match flat with
    | [p] => p
    | _ => .any flat

@[simp] theorem allOf_nil : allOf [] = .always := rfl

@[simp] theorem anyOf_nil : anyOf [] = .any [] := rfl

@[simp] theorem allOf_always_cons (ps : List Predicate) : allOf (.always :: ps) = allOf ps := rfl

end Predicate

end FilterQuery
