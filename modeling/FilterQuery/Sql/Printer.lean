import FilterQuery.Sql.Predicate

namespace FilterQuery

/-!
# Predicates as SQL text

`Predicate.text` writes a predicate with one placeholder `?` for each bound value, and
`Predicate.binds` lists those values in the order of their placeholders.

A conjunction or disjunction below another one stands in parentheses, and so does the
operand of a negation.  A node without operands, and membership in an empty list, become
the constants `1 = 1` and `1 = 0`.
-/

/-- The text of an expression. -/
def Expr.text : Expr → String
  | .column name => name
  | .upper e => "UPPER(" ++ e.text ++ ")"
  | .asText e => "CAST(" ++ e.text ++ " AS TEXT)"

/-- The sign of a comparison. -/
def Comparison.text : Comparison → String
  | .equal => "="
  | .notEqual => "<>"
  | .less => "<"
  | .greater => ">"

/-- The constant condition that holds where `b` does. -/
def constantText (b : Bool) : String := if b then "1 = 1" else "1 = 0"

/-- The word of a negated test, with the blank after it. -/
def negationText (negated : Bool) : String := if negated then "NOT " else ""

namespace Condition

/-- The text of a condition. -/
def text : Condition → String
  | .compare e op _ => e.text ++ " " ++ op.text ++ " ?"
  | .like e _ negated => e.text ++ " " ++ negationText negated ++ "LIKE ?"
  | .isNull e negated => e.text ++ " IS " ++ negationText negated ++ "NULL"
  | .member e vs negated =>
    if vs.isEmpty then constantText negated
    else
      e.text ++ " " ++ negationText negated ++ "IN ("
        ++ ", ".intercalate (vs.map fun _ => "?") ++ ")"
  | .between e _ _ negated => e.text ++ " " ++ negationText negated ++ "BETWEEN ? AND ?"

/-- The values of a condition, in the order of their placeholders. -/
def binds : Condition → List Value
  | .compare _ _ v => [v]
  | .like _ pattern _ => [.text pattern]
  | .isNull _ _ => []
  | .member _ vs _ => vs
  | .between _ low high _ => [low, high]

end Condition

namespace Predicate

/-- The text of an operand, in parentheses where it is joined itself. -/
def groupText (p : Predicate) (text : String) : String :=
  if p.isJoined then "(" ++ text ++ ")" else text

mutual

/-- The text of a predicate. -/
def text : Predicate → String
  | .always => constantText true
  | .test c => c.text
  | .all ps => if ps.isEmpty then constantText true else " AND ".intercalate (groupTexts ps)
  | .any ps => if ps.isEmpty then constantText false else " OR ".intercalate (groupTexts ps)
  | .negate p => "NOT (" ++ p.text ++ ")"

/-- The texts of the operands of a joined predicate. -/
def groupTexts : List Predicate → List String
  | [] => []
  | p :: ps => groupText p p.text :: groupTexts ps

end

mutual

/-- The values of a predicate, in the order of their placeholders. -/
def binds : Predicate → List Value
  | .always => []
  | .test c => c.binds
  | .all ps => bindsList ps
  | .any ps => bindsList ps
  | .negate p => p.binds

/-- The values of several predicates, one after the other. -/
def bindsList : List Predicate → List Value
  | [] => []
  | p :: ps => p.binds ++ bindsList ps

end

theorem groupTexts_eq_map (ps : List Predicate) :
    groupTexts ps = ps.map fun p => groupText p p.text := by
  induction ps with
  | nil => simp [groupTexts]
  | cons p ps ih => simp [groupTexts, ih]

theorem bindsList_eq_flatMap (ps : List Predicate) : bindsList ps = ps.flatMap binds := by
  induction ps with
  | nil => simp [bindsList]
  | cons p ps ih => simp [bindsList, ih]

end Predicate

end FilterQuery
