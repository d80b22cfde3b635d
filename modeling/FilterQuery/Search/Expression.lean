import FilterQuery.Search.Token

namespace FilterQuery.Search

/-!
# Expressions of a search condition

What a search condition says is an expression: constants, placeholders and names, joined
by operations and functions.  Truth values are numbers here: a condition is an expression
that is read as true or false.

The height of an expression is the longest chain of nodes in it; a database bounds it.
-/

/-- The operations between two operands. -/
inductive Operation where
  | or
  | and
  | equal
  | notEqual
  | is
  | isNot
  | like
  | glob
  | regexp
  | matching
  | less
  | lessOrEqual
  | greater
  | greaterOrEqual
  | bitAnd
  | bitOr
  | shiftLeft
  | shiftRight
  | plus
  | minus
  | times
  | divide
  | remainder
  | join
  | extract
  | extractText
  deriving DecidableEq, Repr

/-- The operations before an operand. -/
inductive Modifier where
  | not
  | plus
  | minus
  | complement
  deriving DecidableEq, Repr

/-- The kinds of values that a conversion asks for. -/
inductive Conversion where
  | text
  | integer
  | real
  | numeric
  | blob
  deriving DecidableEq, Repr

/-- What a search condition says.  A name has up to three parts and remembers how it was
    quoted.  In a condition whose names are resolved each name is a column, and only there
    stands `truthTest`. -/
inductive Expression where
  | constant (c : Cell)
  | placeholder (n : Nat)
  | parameter (name : String)
  | moment
  | name (path : List String) (quoted double : Bool)
  | modified (m : Modifier) (a : Expression)
  | binary (op : Operation) (a b : Expression)
  | truthTest (a : Expression) (wanted negated : Bool)
  | escaped (a pattern escape : Expression)
  | isNull (a : Expression) (negated : Bool)
  | between (a low high : Expression)
  | among (a : Expression) (items : List Expression)
  | amongRows (a : Expression) (table : String)
  | cast (a : Expression) (type : Conversion)
  | collate (a : Expression) (collation : String)
  | call (function : String) (args : List Expression)
  | choice (parts : List Expression)
  | row (items : List Expression)
  | raise

namespace Operation

/-- How tightly an operation binds: the higher, the tighter. -/
def level : Operation → Nat
  | .or => 1
  | .and => 2
  | .equal | .notEqual | .is | .isNot | .like | .glob | .regexp | .matching => 4
  | .less | .lessOrEqual | .greater | .greaterOrEqual => 5
  | .bitAnd | .bitOr | .shiftLeft | .shiftRight => 6
  | .plus | .minus => 7
  | .times | .divide | .remainder => 8
  | .join | .extract | .extractText => 9

/-- The name of the function that an operation stands for, if it does. -/
def function? : Operation → Option String
  | .like => some "like"
  | .glob => some "glob"
  | .regexp => some "regexp"
  | .matching => some "match"
  | _ => none

end Operation

/-- The conversion that the name of a type asks for. -/
def Conversion.ofTypeName (name : String) : Conversion :=
  let cs := name.toList.map Char.toUpper
  let has (part : String) : Bool := Text.containsChars part.toList cs
  if has "INT" then .integer
  else if has "CHAR" || has "CLOB" || has "TEXT" then .text
  else if has "BLOB" then .blob
  else if has "REAL" || has "FLOA" || has "DOUB" then .real
  else .numeric

namespace Expression

/-- The constant that is false. -/
def zero : Expression := .constant (.integer 0)

/-- Whether an expression is a constant that is false as it stands. -/
def isZero : Expression → Bool
  | .constant c => c = .integer 0
  | .among _ [] => true
  | _ => false

/-- The conjunction of two expressions; false where one of them is so as it stands. -/
def conjunction (a b : Expression) : Expression :=
  if a.isZero || b.isZero then zero else .binary .and a b

/-- Two expressions joined by an operation. -/
def combine : Operation → Expression → Expression → Expression
  | .and, a, b => conjunction a b
  | op, a, b => .binary op a b

mutual

/-- The number of nodes of the longest chain.  A single item of a list is compared
    directly, which takes one node more. -/
def height : Expression → Nat
  | .constant _ | .placeholder _ | .parameter _ | .moment | .raise => 1
  | .name path _ _ => max 1 path.length
  | .modified _ a => a.height + 1
  | .binary _ a b => max a.height b.height + 1
  | .truthTest a _ _ => a.height + 1
  | .escaped a p e => max a.height (max p.height e.height) + 1
  | .isNull a _ => a.height + 1
  | .between a _ _ => a.height + 1
  | .among a items =>
    match items with
    | [] => 1
    | [b] => max a.height (b.height + 1) + 1
    | items => max a.height (heights items) + 1
  | .amongRows a _ => a.height + 1
  | .cast a _ => a.height + 1
  | .collate a _ => a.height + 1
  | .call _ args => heights args + 1
  | .choice parts => heights parts + 1
  | .row items => heights items + 1

/-- The largest height of several expressions. -/
def heights : List Expression → Nat
  | [] => 0
  | a :: as => max a.height (heights as)

end

mutual

/-- The placeholders of an expression, from left to right; none for a parameter that has
    another name. -/
def placeholders : Expression → List (Option Nat)
  | .placeholder n => [some n]
  | .parameter _ => [none]
  | .constant _ | .moment | .name _ _ _ | .raise => []
  | .modified _ a => a.placeholders
  | .binary _ a b => a.placeholders ++ b.placeholders
  | .truthTest a _ _ => a.placeholders
  | .escaped a p e => a.placeholders ++ p.placeholders ++ e.placeholders
  | .isNull a _ => a.placeholders
  | .between a low high => a.placeholders ++ low.placeholders ++ high.placeholders
  | .among a items => a.placeholders ++ placeholdersList items
  | .amongRows a _ => a.placeholders
  | .cast a _ => a.placeholders
  | .collate a _ => a.placeholders
  | .call _ args => placeholdersList args
  | .choice parts => placeholdersList parts
  | .row items => placeholdersList items

/-- The placeholders of several expressions. -/
def placeholdersList : List Expression → List (Option Nat)
  | [] => []
  | a :: as => a.placeholders ++ placeholdersList as

end

end Expression

end FilterQuery.Search
