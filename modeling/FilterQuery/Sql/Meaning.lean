import FilterQuery.Sql.Cell
import FilterQuery.Sql.Pattern
import FilterQuery.Sql.Predicate

namespace FilterQuery

/-!
# What predicates mean

`Predicate.truth` is the three-valued truth of a predicate on a row.  A row gives each
column a stored value and a preference; a conversion to upper case prefers nothing, a
conversion to text prefers texts.
-/

/-- What a predicate sees of a row. -/
structure Row where
  cell : String → Cell
  affinity : String → Affinity

namespace Expr

/-- The stored value of an expression. -/
def cell (r : Row) : Expr → Cell
  | .column name => r.cell name
  | .upper e => (e.cell r).toUpper
  | .asText e => (e.cell r).toText

/-- The preference of an expression. -/
def affinity (r : Row) : Expr → Affinity
  | .column name => r.affinity name
  | .upper _ => .none
  | .asText _ => .text

/-- The column of an expression. -/
def columnName : Expr → String
  | .column name => name
  | .upper e => e.columnName
  | .asText e => e.columnName

/-- Whether the order of an expression and a value passes a test. -/
def holds (r : Row) (e : Expr) (test : Ordering → Bool) (v : Value) : Truth :=
  let (a, b) := Cell.align (e.cell r, e.affinity r) (v.cell, .none)
  a.holds test b

end Expr

/-- Whether a comparison accepts an order. -/
def Comparison.accepts : Comparison → Ordering → Bool
  | .equal => Ordering.isEq
  | .notEqual => Ordering.isNe
  | .less => Ordering.isLT
  | .greater => Ordering.isGT

namespace Condition

/-- Whether a text matches a pattern; unknown where it is absent. -/
def likeTruth (pattern : String) (c : Cell) : Truth :=
  .ofOption (c.text?.map fun s => Pattern.matches? pattern s)

/-- The truth of a condition on a row. -/
def truth (r : Row) : Condition → Truth
  | .compare e op v => e.holds r op.accepts v
  | .like e pattern negated => .signed negated (likeTruth pattern (e.cell r))
  | .isNull e negated => .signed negated (.ofBool (e.cell r = .null))
  | .member e vs negated => .signed negated (.any (vs.map (e.holds r Ordering.isEq)))
  | .between e low high negated =>
    .signed negated ((e.holds r Ordering.isGE low).and (e.holds r Ordering.isLE high))

/-- The column that a condition reads; membership in an empty list reads none. -/
def column? : Condition → Option String
  | .compare e _ _ | .like e _ _ | .isNull e _ | .between e _ _ _ => some e.columnName
  | .member e vs _ => if vs.isEmpty then none else some e.columnName

end Condition

namespace Predicate

mutual

/-- The truth of a predicate on a row. -/
def truth (r : Row) : Predicate → Truth
  | .always => .yes
  | .test c => c.truth r
  | .all ps => allTruth r ps
  | .any ps => anyTruth r ps
  | .negate p => (p.truth r).not

/-- The truth of a conjunction on a row. -/
def allTruth (r : Row) : List Predicate → Truth
  | [] => .yes
  | p :: ps => (p.truth r).and (allTruth r ps)

/-- The truth of a disjunction on a row. -/
def anyTruth (r : Row) : List Predicate → Truth
  | [] => .no
  | p :: ps => (p.truth r).or (anyTruth r ps)

end

mutual

/-- The columns that a predicate reads, from left to right. -/
def columns : Predicate → List String
  | .always => []
  | .test c => c.column?.toList
  | .all ps => columnsList ps
  | .any ps => columnsList ps
  | .negate p => p.columns

/-- The columns that several predicates read. -/
def columnsList : List Predicate → List String
  | [] => []
  | p :: ps => p.columns ++ columnsList ps

end

theorem allTruth_eq (r : Row) (ps : List Predicate) :
    allTruth r ps = Truth.all (ps.map (truth r)) := by
  induction ps with
  | nil => simp [allTruth]
  | cons p ps ih => simp [allTruth, ih]

theorem anyTruth_eq (r : Row) (ps : List Predicate) :
    anyTruth r ps = Truth.any (ps.map (truth r)) := by
  induction ps with
  | nil => simp [anyTruth]
  | cons p ps ih => simp [anyTruth, ih]

end Predicate

end FilterQuery
