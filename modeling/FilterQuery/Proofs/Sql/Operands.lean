import FilterQuery.Proofs.Search.Phrases
import FilterQuery.Proofs.Search.Lexing
import FilterQuery.Proofs.Search.Numbering
import FilterQuery.Search.Evaluation
import FilterQuery.Sql.Printer

namespace FilterQuery

/-!
# Texts of operands

What a condition tests is written as an operand of the grammar, and is read as an
expression that has the same value on every row.  A placeholder has the value that stands
at its number.

* `Expr.tokens`, `Expr.expression` — what an operand is written and read as;
* `Expr.spells`, `Expr.operand` — its text is an operand of the grammar;
* `Expr.cell_expression`, `Expr.comparison_expression` — values and comparisons;
* `Comparison.sign`, `Comparison.operation` — the signs between operands.
-/

open Search Search.Grammar

namespace Expr

/-- The tokens of the text of an expression. -/
def tokens : Expr → List Token
  | .column name => [.name name]
  | .upper e => .name "UPPER" :: .opening :: (e.tokens ++ [.closing])
  | .asText e => .keyword .cast "CAST" :: .opening ::
      (e.tokens ++ [.keyword .asType "AS", .name "TEXT", .closing])

/-- What the text of an expression is read as. -/
def expression : Expr → Expression
  | .column name => .name [name] false false
  | .upper e => .call "UPPER" [e.expression]
  | .asText e => .cast e.expression .text

/-- The text of an expression spells its tokens. -/
theorem spells {e : Expr} (h : isName e.columnName = true) : Spells e.text.toList e.tokens := by
  induction e with
  | column name => exact .name h
  | upper e ih =>
    rw [text, String.toList_append, String.toList_append]
    exact (Spells.word (w := "UPPER".toList) (by decide)).append
      ((ih h).append Spells.nil.closing (breaks_cons (by decide) _)).opening
      (breaks_cons (by decide) _)
  | asText e ih =>
    rw [text, String.toList_append, String.toList_append]
    have hend : Spells " AS TEXT)".toList [.keyword .asType "AS", .name "TEXT", .closing] :=
      ((Spells.word (w := "AS".toList) (by decide)).append
        ((Spells.word (w := "TEXT".toList) (by decide)).append Spells.nil.closing
          (breaks_cons (by decide) _)).blank (breaks_cons (by decide) _)).blank
    exact (Spells.word (w := "CAST".toList) (by decide)).append
      ((ih h).append hend (breaks_cons (by decide) _)).opening (breaks_cons (by decide) _)

theorem operand (e : Expr) : Operand e.tokens e.expression := by
  induction e with
  | column name => exact .name name
  | upper e ih =>
    have hparts : ∀ p ∈ [(e.tokens, e.expression)], Operand p.1 p.2 := by simpa using ih
    exact .call "UPPER" (List.cons_ne_nil _ _) hparts
  | asText e ih => exact .cast "CAST" "AS" "TEXT" ih

/-- An expression has no placeholders. -/
theorem bare_tokens (e : Expr) : Token.Bare 0 e.tokens := by
  induction e with
  | column name => rfl
  | upper e ih => exact Token.Bare.append (j := 0) (k := 0) ih rfl
  | asText e ih => exact Token.Bare.append (j := 0) (k := 0) ih rfl

theorem count_text {e : Expr} (h : isName e.columnName = true) : e.text.toList.count '?' = 0 := by
  induction e with
  | column name =>
    -- a question mark is no word character
    refine List.count_eq_zero.mpr fun hmem => ?_
    exact absurd (forall_isWordChar_of_isWord (isWord_of_isName h).1 '?' hmem) (by decide)
  | upper e ih => simp [text, List.count_append, ih h]
  | asText e ih => simp [text, List.count_append, ih h]

/-- An expression is read as an expression with its value. -/
theorem cell_expression (r : Row) (values : List Cell) (e : Expr) :
    e.expression.cell r values = e.cell r := by
  induction e with
  | column name => rfl
  | upper e ih =>
    rw [expression, Expression.cell, Expression.cells, Expression.cells, ih, Function.value,
      show Function.mainName (Text.lower "UPPER") = "upper" by decide +kernel]
    rfl
  | asText e ih => rw [expression, Expression.cell, ih]; rfl

theorem affinity_expression (r : Row) (e : Expr) : e.expression.affinity r = e.affinity r := by
  cases e <;> rfl

theorem collation_expression (e : Expr) : e.expression.collation? = none := by
  induction e with
  | column name => rfl
  | upper e ih => rw [expression, Expression.collation?, Expression.collationOf?, ih]; rfl
  | asText e ih => rw [expression, Expression.collation?, ih]

/-- A comparison of an expression as it is read holds where that of the expression does. -/
theorem comparison_expression {op : Operation} (hop : op.identity? = none) (r : Row)
    (values : List Cell) (e : Expr) (v : Value) :
    Expression.comparison op (.ofName none)
        (e.expression.cell r values, e.expression.affinity r) (v.cell, .none) =
      e.holds r op.accepts v := by
  rw [cell_expression, affinity_expression, Expression.comparison, hop]
  rfl

end Expr

namespace Comparison

/-- The sign of a comparison. -/
def sign : Comparison → Sign
  | .equal => .equal
  | .notEqual => .notEqual
  | .less => .less
  | .greater => .greater

/-- The operation of a comparison. -/
def operation : Comparison → Operation
  | .equal => .equal
  | .notEqual => .notEqual
  | .less => .less
  | .greater => .greater

theorem spells (op : Comparison) : Spells op.text.toList [.sign op.sign] := by
  cases op <;> exact .sign (by decide) (by decide)

theorem ofToken?_sign (op : Comparison) :
    Operation.ofToken? (.sign op.sign) = some op.operation := by
  cases op <;> rfl

theorem compares_operation (op : Comparison) : op.operation.compares = true := by
  cases op <;> rfl

theorem identity?_operation (op : Comparison) : op.operation.identity? = none := by
  cases op <;> rfl

theorem accepts_operation (op : Comparison) : op.operation.accepts = op.accepts := by
  cases op <;> rfl

end Comparison

/-! ### Placeholders -/

namespace Search.Expression

/-- The truth of a comparison of two expressions. -/
theorem truth_binary {op : Operation} (hop : op.compares = true) (r : Row) (values : List Cell)
    (a b : Expression) :
    (binary op a b).truth r values = comparison op (.ofName (a.collation? <|> b.collation?))
      (a.cell r values, a.affinity r) (b.cell r values, b.affinity r) := by
  cases op <;> first | exact Cell.truth_ofTruth _ | cases hop

theorem truth_not (r : Row) (values : List Cell) (a : Expression) :
    (modified .not a).truth r values = (a.truth r values).not := Cell.truth_ofTruth _

/-- A placeholder has the value behind those before it. -/
theorem cell_placeholder (r : Row) (before after : List Cell) (c : Cell) :
    (placeholder (before.length + 1)).cell r (before ++ c :: after) = c := by
  rw [cell, if_neg (Nat.succ_ne_zero _), Nat.add_sub_cancel]
  simp

theorem cell_placeholder_singleton (r : Row) (before after : List Cell) (c : Cell) :
    (placeholder (before.length + 1)).cell r (before ++ [c] ++ after) = c := by
  rw [List.append_assoc]
  exact cell_placeholder r before after c

/-- Placeholders one after the other have the values behind those before them. -/
theorem cells_placeholders (r : Row) (before cs after : List Cell) :
    cells r (before ++ cs ++ after) ((List.range' (before.length + 1) cs.length).map placeholder) =
      cs := by
  induction cs generalizing before with
  | nil => rfl
  | cons c cs ih =>
    have hrest := ih (before ++ [c])
    rw [List.length_append, List.length_singleton, List.append_assoc before [c],
      List.singleton_append] at hrest
    rw [List.length_cons, List.range'_succ, List.map_cons, cells, hrest, List.append_assoc,
      List.cons_append, cell_placeholder]

end Search.Expression

end FilterQuery
