import FilterQuery.Number.Extended
import FilterQuery.Sql.Truth
import FilterQuery.Sql.Value
import FilterQuery.Text.Ascii

namespace FilterQuery

/-!
# Stored values and their comparison

A database knows four kinds of values (`Cell`).  A column prefers one kind (`Affinity`),
and before two values are compared the preference of one side may convert the other:

* against a numeric column a text that looks like a number becomes that number;
* against a text column a number becomes its text;
* what has no preference leaves the other side alone.

Numbers come before texts, and texts are ordered by code points.
-/

/-- A value as a database stores it. -/
inductive Cell where
  | null
  | integer (n : Int)
  | real (x : Binary64)
  | text (s : String)
  deriving DecidableEq

/-- The kind of values that a column prefers. -/
inductive Affinity where
  | text
  | numeric
  | none
  deriving DecidableEq, Repr

/-- The stored form of a value: identifiers and timestamps are texts, truth values are
    one and zero, and what is not a number is absent. -/
def Value.cell : Value → Cell
  | .text s => .text s
  | .integer n => .integer n
  | .real .notANumber => .null
  | .real x => .real x
  | .boolean b => .integer (if b then 1 else 0)
  | .identifier u => .text u.text
  | .timestamp t => .text t.text
  | .null => .null

namespace Cell

/-- Digits with a point after the first of them, and a power of ten of at least two
    digits. -/
def scientific (digits : List Char) (power : Int) : List Char :=
  let tail := digits.drop 1
  let size := Nat.toDigits 10 power.natAbs
  digits.take 1 ++ '.' :: (if tail.isEmpty then ['0'] else tail)
    ++ 'e' :: (if power < 0 then '-' else '+') :: List.replicate (2 - size.length) '0' ++ size

/-- Digits times a power of ten with a point, and a digit on both sides of it. -/
def pointed (digits : Nat) (power : Int) : List Char :=
  let cs := Binary64.positional digits power
  if '.' ∈ cs then cs else cs ++ ['.', '0']

/-- The text of a floating-point number: at most fifteen significant digits, always with a
    point, and with an exponent for very large and very small numbers. -/
def realText : Binary64 → String
  | .notANumber => ""
  | .infinite negative => if negative then "-Inf" else "Inf"
  | .finite _ 0 _ => "0.0"
  | .finite negative significand exponent =>
    let (digits, power) := Extended.significant 15 ⟨significand, exponent⟩
    let (digits, power) := Binary64.dropZeros 15 digits power
    let size := (Nat.toDigits 10 digits).length + power - 1
    let cs :=
      if size < -4 ∨ 14 < size then scientific (Nat.toDigits 10 digits) size
      else pointed digits power
    String.ofList (if negative then '-' :: cs else cs)

/-- The text of a stored value, unless it is absent. -/
def text? : Cell → Option String
  | .null => none
  | .integer n => some (toString n)
  | .real x => some (realText x)
  | .text s => some s

/-- A blank of the ASCII range. -/
def isAsciiBlank (c : Char) : Bool := c = ' ' || (9 ≤ c.toNat && c.toNat ≤ 13)

/-- The number that a text looks like, white space around it aside. -/
def numberOf? (s : String) : Option Cell :=
  let cs := ((s.toList.dropWhile isAsciiBlank).reverse.dropWhile isAsciiBlank).reverse
  match Bounds.signed64.readChars cs with
  | .ok n => some (.integer n)
  | .error _ => (Binary64.signedDecimal? cs).map fun d => .real (Extended.ofDecimal d)

/-- The value converted for a numeric column. -/
def toNumeric : Cell → Cell
  | .text s => (numberOf? s).getD (.text s)
  | c => c

/-- The integer that a stored number is, where it is one.  A floating-point number is
    none at either end of the range. -/
def integer? : Cell → Option Int
  | .integer n => some n
  | .real (.finite negative significand exponent) =>
    let (n, d) := Binary64.ratio significand exponent
    let k : Int := if negative then -((n / d : Nat) : Int) else (n / d : Nat)
    if n % d = 0 ∧ Bounds.signed64.low < k ∧ k < Bounds.signed64.high then some k else none
  | _ => none

/-- The value converted for a text column. -/
def toText (c : Cell) : Cell :=
  match c.text? with
  | some s => .text s
  | none => .null

/-- The text of the value with its ASCII letters in upper case. -/
def toUpper (c : Cell) : Cell :=
  match c.text? with
  | some s => .text (Text.upper s)
  | none => .null

/-- The order of two stored values; absent values come first. -/
def order : Cell → Cell → Ordering
  | .null, .null => .eq
  | .null, _ => .lt
  | _, .null => .gt
  | .text s, .text t => compare s t
  | .text _, _ => .gt
  | _, .text _ => .lt
  | .integer m, .integer n => compare m n
  | .integer n, .real x => ((x.compareInt n).getD .eq).swap
  | .real x, .integer n => (x.compareInt n).getD .eq
  | .real x, .real y => (x.compareExact y).getD .eq

/-- Both sides of a comparison, each converted as the other side's preference asks. -/
def align (left : Cell × Affinity) (right : Cell × Affinity) : Cell × Cell :=
  match left.2, right.2 with
  | .numeric, .numeric => (left.1, right.1)
  | .numeric, _ => (left.1, right.1.toNumeric)
  | _, .numeric => (left.1.toNumeric, right.1)
  | .text, .none => (left.1, right.1.toText)
  | .none, .text => (left.1.toText, right.1)
  | _, _ => (left.1, right.1)

/-- Whether the order of two values passes a test; unknown where one is absent. -/
def holds (test : Ordering → Bool) (left right : Cell) : Truth :=
  match left, right with
  | .null, _ => .unknown
  | _, .null => .unknown
  | a, b => .ofBool (test (a.order b))

end Cell

end FilterQuery
