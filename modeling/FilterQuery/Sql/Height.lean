import FilterQuery.Sql.Predicate

namespace FilterQuery

/-!
# The height of predicates

A database bounds the longest chain of operations in a condition.  `Predicate.height` is
the length of that chain in the text of a predicate, where every operand and operation
counts as one and an operation of many operands is a chain of its own.
-/

/-- The height of an expression. -/
def Expr.height : Expr → Nat
  | .column _ => 1
  | .upper e => e.height + 1
  | .asText e => e.height + 1

/-- One more level for a negation. -/
def negationHeight (negated : Bool) : Nat := if negated then 1 else 0

/-- The height of a condition.  Membership in a list of one value is a comparison with the
    bare value, which takes a level of its own. -/
def Condition.height : Condition → Nat
  | .compare e _ _ => e.height + 1
  | .like e _ negated => e.height + 1 + negationHeight negated
  | .isNull e _ => e.height + 1
  | .member e vs negated =>
    match vs with
    | [] => 2
    | [_] => max e.height 2 + 1 + negationHeight negated
    | _ => e.height + 1 + negationHeight negated
  | .between e _ _ negated => e.height + 1 + negationHeight negated

namespace Predicate

mutual

/-- The height of a predicate. -/
def height : Predicate → Nat
  | .always => 2
  | .test c => c.height
  | .all ps => joinedHeight ps
  | .any ps => joinedHeight ps
  | .negate p => p.height + 1

/-- The height of joined predicates, two where there are none. -/
def joinedHeight : List Predicate → Nat
  | [] => 2
  | p :: ps => chainHeight p.height ps

/-- The height of a chain of a height with more predicates joined to it. -/
def chainHeight (height : Nat) : List Predicate → Nat
  | [] => height
  | p :: ps => chainHeight (max height p.height + 1) ps

end

end Predicate

end FilterQuery
