import FilterQuery.Search.Names
import FilterQuery.Sql.Meaning

namespace FilterQuery.Search

/-!
# The value of a search condition

`Expression.cell` is the value of an expression on a row, with values for its
placeholders; `Expression.truth` is that value read as a truth value.

Before two operands are compared the preference of one may convert the other
(`Cell.align`), as for predicates, and texts are compared in a collation.
-/

/-- How texts are compared. -/
inductive Collation where
  | binary
  | noCase
  | trimmed
  deriving DecidableEq, Repr

namespace Collation

/-- The collation of a name. -/
def ofName (name : Option String) : Collation :=
  match name with
  | some word =>
    if Text.sameIgnoringCase word "NOCASE" then .noCase
    else if Text.sameIgnoringCase word "RTRIM" then .trimmed
    else .binary
  | none => .binary

/-- A value as a collation sees it. -/
def seen : Collation → Cell → Cell
  | .noCase, .text s => .text (Text.lower s)
  | .trimmed, .text s => .text (String.ofList (Function.trimmedEnd [' '] s.toList))
  | _, c => c

end Collation

namespace Operation

/-- Whether a comparison accepts an order. -/
def accepts : Operation → Ordering → Bool
  | .equal | .is => Ordering.isEq
  | .notEqual | .isNot => Ordering.isNe
  | .less => Ordering.isLT
  | .lessOrEqual => Ordering.isLE
  | .greater => Ordering.isGT
  | .greaterOrEqual => Ordering.isGE
  | _ => fun _ => false

/-- The value of an operation that neither compares nor looks at truth. -/
def value : Operation → Cell → Cell → Cell
  | .plus => Cell.plus
  | .minus => Cell.minus
  | .times => Cell.times
  | .divide => Cell.divide
  | .remainder => Cell.remainder
  | .bitAnd => Cell.onBits (· &&& ·)
  | .bitOr => Cell.onBits (· ||| ·)
  | .shiftLeft => Cell.shiftLeft
  | .shiftRight => Cell.shiftRight
  | .join => Cell.join
  | .like => fun a p => Function.value "like" [p, a]
  | .glob => fun a p => Function.value "glob" [p, a]
  | _ => fun _ _ => .null

end Operation

namespace Modifier

/-- The value of a modified value. -/
def value : Modifier → Cell → Cell
  | .not, c => .ofTruth c.truth.not
  | .plus, c => c
  | .minus, c => Cell.minus (.integer 0) c
  | .complement, c => c.complement

end Modifier

namespace Conversion

/-- The converted value; what is absent stays so. -/
def value : Conversion → Cell → Cell
  | .text, c => c.toText
  | .blob, c => c.toText
  | .integer, c => (c.whole?.map Cell.integer).getD .null
  | .real, c => (c.real?.map Cell.real).getD .null
  | .numeric, c =>
    match c with
    | .text s =>
      match Cell.leadingNumber s with
      | .real x => (((Cell.real x).integer?).map Cell.integer).getD (.real x)
      | n => n
    | c => c

/-- The kind of values that a conversion gives. -/
def affinity : Conversion → Affinity
  | .text => .text
  | .blob => .none
  | .integer | .real | .numeric => .numeric

end Conversion

namespace Expression

/-- The preference of an expression: that of its column or conversion. -/
def affinity (r : Row) : Expression → Affinity
  | .name path _ _ => r.affinity (path.getLastD "")
  | .cast _ type => type.affinity
  | .collate a _ => a.affinity r
  | _ => .none

/-- The truth of a comparison of two values. -/
def comparison (op : Operation) (collation : Collation) (a b : Cell × Affinity) : Truth :=
  let (x, y) := Cell.align a b
  let x := collation.seen x
  let y := collation.seen y
  if op.identity?.isSome then .ofBool (op.accepts (x.order y)) else x.holds op.accepts y

/-- The first result behind a guard that is true, or else the one behind all guards. -/
def chosen : List Cell → Cell
  | guard :: result :: parts => if guard.truth = .yes then result else chosen parts
  | [result] => result
  | [] => .null

mutual

/-- The value of an expression on a row, with values for the placeholders. -/
def cell (r : Row) (values : List Cell) : Expression → Cell
  | .constant c => c
  | .placeholder n => if n = 0 then .null else values.getD (n - 1) .null
  | .parameter _ => .null
  | .moment => .text ""
  | .name path _ _ => r.cell (path.getLastD "")
  | .modified m a => m.value (a.cell r values)
  | .binary op a b =>
    let x := a.cell r values
    let y := b.cell r values
    match op with
    | .and => .ofTruth (x.truth.and y.truth)
    | .or => .ofTruth (x.truth.or y.truth)
    | op =>
      if op.compares then
        let collation := Collation.ofName (a.collation? <|> b.collation?)
        .ofTruth (comparison op collation (x, a.affinity r) (y, b.affinity r))
      else op.value x y
  | .truthTest a wanted negated =>
    .ofTruth (.ofBool ((decide ((a.cell r values).truth = .ofBool wanted)) != negated))
  | .escaped a p e => Function.value "like" [p.cell r values, a.cell r values, e.cell r values]
  | .isNull a negated => .ofTruth (.signed negated (.ofBool (a.cell r values = .null)))
  | .between a low high =>
    let x := (a.cell r values, a.affinity r)
    .ofTruth <|
      (comparison .greaterOrEqual (.ofName (a.collation? <|> low.collation?)) x
        (low.cell r values, low.affinity r)).and
      (comparison .lessOrEqual (.ofName (a.collation? <|> high.collation?)) x
        (high.cell r values, high.affinity r))
  | .among a items =>
    let x := (a.cell r values, a.affinity r)
    .ofTruth (.any ((cells r values items).map fun y =>
      comparison .equal (.ofName a.collation?) x (y, .none)))
  | .amongRows _ _ => .null
  | .cast a type => type.value (a.cell r values)
  | .collate a _ => a.cell r values
  | .call f args => Function.value f (cells r values args)
  | .choice parts => chosen (cells r values parts)
  | .row _ => .null
  | .raise => .null

/-- The values of several expressions. -/
def cells (r : Row) (values : List Cell) : List Expression → List Cell
  | [] => []
  | a :: as => a.cell r values :: cells r values as

end

/-- The truth of an expression on a row. -/
def truth (r : Row) (values : List Cell) (e : Expression) : Truth := (e.cell r values).truth

end Expression

end FilterQuery.Search
