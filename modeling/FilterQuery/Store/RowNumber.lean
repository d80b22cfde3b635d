import FilterQuery.Store.Relation

namespace FilterQuery

/-!
# Rows found by their number

A condition on the number of a row may find the row instead of testing all rows.  Then the
value that is sought has to be an integer first: a floating-point number at the low end of
the 64-bit range finds nothing, although it equals that number.

`Predicate.sought` is a predicate with the integers that are sought in place of the
values, wherever rows are found by number: in the operands of a conjunction, and in those
of a disjunction each of which may find its rows.
-/

/-- The integer that is sought for a value; nothing is found where there is none. -/
def Value.sought (v : Value) : Value :=
  match v.cell.toNumeric.integer? with
  | some n => .integer n
  | none => .null

/-- Whether an expression is the number of a row. -/
def Expr.isNumber (r : Relation) : Expr → Bool
  | .column name => r.isNumber name
  | _ => false

namespace Condition

/-- The condition with the integers that are sought. -/
def sought (r : Relation) : Condition → Condition
  | .compare e .equal v =>
    if e.isNumber r then .compare e .equal v.sought else .compare e .equal v
  | .member e vs false =>
    if e.isNumber r then .member e (vs.map Value.sought) false else .member e vs false
  | c => c

/-- Whether a condition finds rows by their numbers. -/
def finds (r : Relation) : Condition → Bool
  | .compare e op _ => op ≠ .notEqual && e.isNumber r
  | .member e vs negated => !negated && !vs.isEmpty && e.isNumber r
  | .between e _ _ negated => !negated && e.isNumber r
  | _ => false

end Condition

namespace Predicate

mutual

/-- Whether a predicate finds rows by their numbers. -/
def finds (r : Relation) : Predicate → Bool
  | .always => false
  | .test c => c.finds r
  | .all ps => anyFinds r ps
  | .any ps => !ps.isEmpty && allFind r ps
  | .negate _ => false

/-- Whether one of several predicates finds rows by their numbers. -/
def anyFinds (r : Relation) : List Predicate → Bool
  | [] => false
  | p :: ps => p.finds r || anyFinds r ps

/-- Whether each of several predicates finds rows by their numbers. -/
def allFind (r : Relation) : List Predicate → Bool
  | [] => true
  | p :: ps => p.finds r && allFind r ps

end

mutual

/-- The predicate with the integers that are sought. -/
def sought (r : Relation) : Predicate → Predicate
  | .always => .always
  | .test c => .test (c.sought r)
  | .all ps => .all (soughtList r ps)
  | .any ps => .any (if allFind r ps then soughtList r ps else ps)
  | .negate p => .negate p

/-- Several predicates with the integers that are sought. -/
def soughtList (r : Relation) : List Predicate → List Predicate
  | [] => []
  | p :: ps => p.sought r :: soughtList r ps

end

end Predicate

end FilterQuery
