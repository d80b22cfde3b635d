namespace FilterQuery

/-!
# Decimal integers within bounds

A numeral is an optional sign followed by ASCII digits.  `Bounds.read` reads one from
left to right and stops at the first character that is no digit, or at the first digit
that takes the value past a bound.
-/

/-- Why a text is not an integer within the bounds. -/
inductive IntegerError where
  | empty
  | invalidDigit
  | tooLarge
  | tooSmall
  deriving DecidableEq, Repr

/-- The text of an integer error. -/
def IntegerError.message : IntegerError → String
  | .empty => "cannot parse integer from empty string"
  | .invalidDigit => "invalid digit found in string"
  | .tooLarge => "number too large to fit in target type"
  | .tooSmall => "number too small to fit in target type"

/-- The value of an ASCII digit. -/
def digit? (c : Char) : Option Nat := if c.isDigit then some (c.toNat - '0'.toNat) else none

/-- The closed range of integers that a reader accepts. -/
structure Bounds where
  low : Int
  high : Int

namespace Bounds

/-- Integers of 64 bits with a sign. -/
def signed64 : Bounds := ⟨-9223372036854775808, 9223372036854775807⟩

/-- Whether an integer lies within the bounds. -/
def Contains (b : Bounds) (n : Int) : Prop := b.low ≤ n ∧ n ≤ b.high

instance (b : Bounds) (n : Int) : Decidable (b.Contains n) := inferInstanceAs (Decidable (_ ∧ _))

/-- Integers of 32 bits without a sign. -/
def unsigned32 : Bounds := ⟨0, 4294967295⟩

/-- Reads digits away from zero on the positive side, starting from `acc`. -/
def readUp (b : Bounds) (acc : Int) : List Char → Except IntegerError Int
  | [] => .ok acc
  | c :: cs =>
    match digit? c with
    | none => .error .invalidDigit
    | some d => if 10 * acc + d ≤ b.high then readUp b (10 * acc + d) cs else .error .tooLarge

/-- Reads digits away from zero on the negative side, starting from `acc`. -/
def readDown (b : Bounds) (acc : Int) : List Char → Except IntegerError Int
  | [] => .ok acc
  | c :: cs =>
    match digit? c with
    | none => .error .invalidDigit
    | some d => if b.low ≤ 10 * acc - d then readDown b (10 * acc - d) cs else .error .tooSmall

/-- Reads a numeral.  A minus sign counts as a sign only where negative integers are
    in bounds. -/
def readChars (b : Bounds) : List Char → Except IntegerError Int
  | [] => .error .empty
  | ['+'] => .error .invalidDigit
  | ['-'] => .error .invalidDigit
  | '+' :: cs => b.readUp 0 cs
  | '-' :: cs => if b.low < 0 then b.readDown 0 cs else .error .invalidDigit
  | cs => b.readUp 0 cs

/-- Reads the whole text as a numeral. -/
def read (b : Bounds) (s : String) : Except IntegerError Int := b.readChars s.toList

end Bounds

end FilterQuery
