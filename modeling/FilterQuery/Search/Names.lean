import FilterQuery.Search.Error

namespace FilterQuery.Search

/-!
# Names in search conditions

A name stands for a column of the table that is searched, whatever its ASCII case; the
table and the database may be named before it.  Of other names, `TRUE` and `FALSE` stand
for numbers and one in double quotes for a text.

* `Expression.fault?` — the error of a condition whose names or functions are not known;
* `Expression.misuse?` — the error of one that uses them where they have no place;
* `Expression.resolve` — the condition with a column or a constant for each name.

Of several faults the last one that is met is reported.  A condition is read from left to
right, and reading ends at the first name that is not known, or at the first part after a
fault that is neither a name nor a function nor a test for absence; but such a test and a
function end only the reading of their own operands.
-/

/-- What names may stand for: the table that is searched, its columns, and the other tables
    with their numbers of columns. -/
structure Scope where
  table : String
  columns : List String
  widths : List (String × Nat)

namespace Scope

/-- The name of the database. -/
def database : String := "main"

/-- Whether the table has a column. -/
def hasColumn (sc : Scope) (name : String) : Bool :=
  sc.columns.any fun c => Text.sameIgnoringCase c name

/-- Whether a name is that of the table. -/
def isTable (sc : Scope) (name : String) : Bool := Text.sameIgnoringCase sc.table name

/-- The number of columns of a table. -/
def width? (sc : Scope) (name : String) : Option Nat :=
  (sc.widths.find? fun p => Text.sameIgnoringCase p.1 name).map Prod.snd

end Scope

/-- The number that a word of truth stands for. -/
def truthWord? (word : String) : Option Bool :=
  if Text.sameIgnoringCase word "TRUE" then some true
  else if Text.sameIgnoringCase word "FALSE" then some false
  else none

namespace Operation

/-- Whether an operation compares its operands. -/
def compares : Operation → Bool
  | .equal | .notEqual | .is | .isNot | .less | .lessOrEqual | .greater | .greaterOrEqual => true
  | _ => false

/-- Whether an operation asks for sameness, and if so whether it denies it. -/
def identity? : Operation → Option Bool
  | .is => some false
  | .isNot => some true
  | _ => none

end Operation

namespace Expression

/-- The column of a name. -/
def ofColumn (name : String) : Expression := .name [name] true false

/-- What a name stands for. -/
def ofName? (sc : Scope) (path : List String) (quoted double : Bool) : Option Expression :=
  match path with
  | [c] =>
    if sc.hasColumn c then some (ofColumn c)
    else if double then some (.constant (.text c))
    else if quoted then none
    else (truthWord? c).map fun b => .constant (.integer (if b then 1 else 0))
  | [t, c] => if sc.isTable t && sc.hasColumn c then some (ofColumn c) else none
  | [d, t, c] =>
    if Text.sameIgnoringCase d Scope.database && sc.isTable t && sc.hasColumn c then
      some (ofColumn c)
    else none
  | _ => none

/-- The number of values of an expression. -/
def width : Expression → Nat
  | .row items => items.length
  | _ => 1

/-- The truth value that the right side of `IS` is a word for. -/
def truthValue? (sc : Scope) : Expression → Option Bool
  | .name [c] false _ => if sc.hasColumn c then none else truthWord? c
  | .collate a _ => a.truthValue? sc
  | _ => none

/-- Whether an expression is a name without a table before it. -/
def isSingleName : Expression → Bool
  | .name [_] _ _ => true
  | .collate a _ => a.isSingleName
  | _ => false

/-! ## Faults -/

/-- The fault of a function as it is called; `nested` says whether it stands in an
    aggregate. -/
def callFault? (nested : Bool) (function : String) (count : Nat) : Option SearchError :=
  match Function.find function count with
  | .unknown => some (.noFunction function)
  | .wrongCount => some (.argumentCount function)
  | .found .window => some (.misuse .window function)
  | .found .aggregate => if nested then some (.misuse .aggregate function) else none
  | .found .scalar => none

mutual

/-- The last fault after an expression is read, given the last one before it, and whether
    reading ends there. -/
def walk (sc : Scope) (nested : Bool) (last : Option SearchError) :
    Expression → Option SearchError × Bool
  | .name path quoted double =>
    if (ofName? sc path quoted double).isSome then (last, false)
    else (some (.noColumn (".".intercalate path)), true)
  | .moment => (last, false)
  | .isNull a _ => ((walk sc nested last a).1, false)
  | .call f args =>
    let inside := nested || Function.isAggregate f args.length
    ((walkList sc inside (callFault? nested f args.length <|> last) args).1, false)
  | .escaped a p e =>
    match walk sc nested last p with
    | (found, true) => (found, false)
    | (found, false) =>
      match walk sc nested found a with
      | (found, true) => (found, false)
      | (found, false) => ((walk sc nested found e).1, false)
  | .binary op a b =>
    match op.function? with
    | some f =>
      match walk sc nested (callFault? nested f 2 <|> last) b with
      | (found, true) => (found, false)
      | (found, false) => ((walk sc nested found a).1, false)
    | none =>
      if op.identity?.isSome && b.isSingleName then
        match walk sc nested last b with
        | (found, true) => (found, true)
        | (found, false) =>
          if (b.truthValue? sc).isSome then walk sc nested found a
          else if a.width ≠ b.width then (some .rowValue, true)
          else if found.isSome then (found, true)
          else walk sc nested found a
      else if op.compares && a.width ≠ b.width then (some .rowValue, true)
      else if last.isSome then (last, true)
      else
        match walk sc nested last a with
        | (found, true) => (found, true)
        | (found, false) => walk sc nested found b
  | .between a low high =>
    if a.width ≠ low.width ∨ a.width ≠ high.width then (some .rowValue, true)
    else if last.isSome then (last, true)
    else
      match walk sc nested last a with
      | (found, true) => (found, true)
      | (found, false) =>
        match walk sc nested found low with
        | (found, true) => (found, true)
        | (found, false) => walk sc nested found high
  | .among a items =>
    if last.isSome then (last, true)
    else if items.isEmpty then (last, false)
    else
      match walk sc nested last a with
      | (found, true) => (found, true)
      | (found, false) => walkList sc nested found items
  | .amongRows a table =>
    if (sc.width? table).isNone then (some (.noTable table), true)
    else if last.isSome then (last, true)
    else walk sc nested last a
  | .modified _ a => if last.isSome then (last, true) else walk sc nested last a
  | .cast a _ => if last.isSome then (last, true) else walk sc nested last a
  | .collate a _ => if last.isSome then (last, true) else walk sc nested last a
  | .truthTest a _ _ => if last.isSome then (last, true) else walk sc nested last a
  | .choice parts => if last.isSome then (last, true) else walkList sc nested last parts
  | .row items => if last.isSome then (last, true) else walkList sc nested last items
  | .constant _ => (last, last.isSome)
  | .placeholder _ => (last, last.isSome)
  | .parameter _ => (last, last.isSome)
  | .raise => (last, last.isSome)

/-- The same for several expressions, up to the one where reading ends. -/
def walkList (sc : Scope) (nested : Bool) (last : Option SearchError) :
    List Expression → Option SearchError × Bool
  | [] => (last, false)
  | a :: as =>
    match walk sc nested last a with
    | (found, true) => (found, true)
    | (found, false) => walkList sc nested found as

end

/-- The fault of a condition whose names or functions are not known. -/
def fault? (sc : Scope) (e : Expression) : Option SearchError := (walk sc false none e).1

/-! ## Misuses -/

mutual

/-- The collation that an expression asks for. -/
def collation? : Expression → Option String
  | .collate _ collation => some collation
  | .modified _ a => a.collation?
  | .binary _ a b => a.collation? <|> b.collation?
  | .truthTest a _ _ => a.collation?
  | .escaped a p e => p.collation? <|> a.collation? <|> e.collation?
  | .isNull a _ => a.collation?
  | .between a low high => a.collation? <|> low.collation? <|> high.collation?
  | .among a items => a.collation? <|> collationOf? items
  | .amongRows a _ => a.collation?
  | .cast a _ => a.collation?
  | .call _ args => collationOf? args
  | .choice parts => collationOf? parts
  | .row items => collationOf? items
  | .constant _ | .placeholder _ | .parameter _ | .moment | .name _ _ _ | .raise => none

/-- The collation that the first of several expressions asks for that asks for one. -/
def collationOf? : List Expression → Option String
  | [] => none
  | a :: as => a.collation? <|> collationOf? as

end

/-- The collations that a comparison may ask for. -/
def collations : List String := ["BINARY", "NOCASE", "RTRIM"]

/-- The misuse of a comparison with a collation. -/
def collationMisuse : Option String → List SearchError
  | some word =>
    if collations.any fun c => Text.sameIgnoringCase c word then [] else [.noCollation word]
  | none => []

mutual

/-- What an expression uses where it has no place. -/
def misuses (sc : Scope) : Expression → List SearchError
  | .call f args =>
    if Function.isAggregate f args.length then [.aggregate f] else misusesList sc args
  | .binary op a b =>
    a.misuses sc ++ b.misuses sc
      ++ (if op.compares then collationMisuse (a.collation? <|> b.collation?) else [])
      ++ (if op = .matching then [.matching] else [])
  | .between a low high =>
    a.misuses sc ++ low.misuses sc ++ high.misuses sc
      ++ collationMisuse (a.collation? <|> low.collation?)
      ++ collationMisuse (a.collation? <|> high.collation?)
  | .among a items =>
    if items.isEmpty then []
    else (if a.width = 1 then [] else [.rowValue]) ++ a.misuses sc ++ misusesList sc items
      ++ collationMisuse a.collation?
  | .amongRows a table =>
    match sc.width? table with
    | some n => if n = a.width then a.misuses sc else [.rowWidth n]
    | none => []
  | .escaped a p e => p.misuses sc ++ a.misuses sc ++ e.misuses sc
  | .modified _ a => a.misuses sc
  | .truthTest a _ _ => a.misuses sc
  | .isNull a _ => a.misuses sc
  | .cast a _ => a.misuses sc
  | .collate a _ => a.misuses sc
  | .choice parts => misusesList sc parts
  | .row _ => [.rowValue]
  | .raise => [.raise]
  | .constant _ | .placeholder _ | .parameter _ | .moment | .name _ _ _ => []

/-- What several expressions use where it has no place. -/
def misusesList (sc : Scope) : List Expression → List SearchError
  | [] => []
  | a :: as => a.misuses sc ++ misusesList sc as

end

/-- The misuse of a condition: a row value, or else the last one. -/
def misuse? (sc : Scope) (e : Expression) : Option SearchError :=
  let found := e.misuses sc
  if .rowValue ∈ found then some .rowValue else found.getLast?

/-! ## Resolution -/

mutual

/-- The expression with a column or a constant for each name. -/
def resolve (sc : Scope) : Expression → Expression
  | .name path quoted double => (ofName? sc path quoted double).getD (.constant .null)
  | .binary op a b =>
    match op.identity?, b.truthValue? sc with
    | some negated, some wanted => .truthTest (a.resolve sc) wanted negated
    | _, _ => .binary op (a.resolve sc) (b.resolve sc)
  | .modified m a => .modified m (a.resolve sc)
  | .truthTest a wanted negated => .truthTest (a.resolve sc) wanted negated
  | .escaped a p e => .escaped (a.resolve sc) (p.resolve sc) (e.resolve sc)
  | .isNull a negated => .isNull (a.resolve sc) negated
  | .between a low high => .between (a.resolve sc) (low.resolve sc) (high.resolve sc)
  | .among a items => .among (a.resolve sc) (resolveList sc items)
  | .amongRows a table => .amongRows (a.resolve sc) table
  | .cast a type => .cast (a.resolve sc) type
  | .collate a collation => .collate (a.resolve sc) collation
  | .call f args => .call f (resolveList sc args)
  | .choice parts => .choice (resolveList sc parts)
  | .row items => .row (resolveList sc items)
  | .constant c => .constant c
  | .placeholder n => .placeholder n
  | .parameter word => .parameter word
  | .moment => .moment
  | .raise => .raise

/-- Several expressions with a column or a constant for each name. -/
def resolveList (sc : Scope) : List Expression → List Expression
  | [] => []
  | a :: as => a.resolve sc :: resolveList sc as

end

end Expression

end FilterQuery.Search
