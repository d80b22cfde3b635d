import FilterQuery.Sql.Cell

namespace FilterQuery

/-!
# Arithmetic of stored values

An operation reads its operands as numbers: a text counts as the number at its start, or
zero.  What is absent makes the result absent.

* Whole numbers stay whole within 64 bits; beyond them the operation is repeated on
  floating-point numbers.
* Division rounds towards zero, and division by zero is absent.
* Bits belong to whole numbers in two's complement; other operands lose their places
  first.
-/

namespace Binary64

/-- The exact value of a finite number as a quotient. -/
def quotient? : Binary64 → Option (Int × Nat)
  | .finite negative significand exponent =>
    let (n, d) := ratio significand exponent
    some (if negative then -(n : Int) else n, d)
  | _ => none

/-- The number nearest to a quotient. -/
def ofQuotient (n : Int) (d : Nat) : Binary64 := ofRatio (decide (n < 0)) n.natAbs d

/-- The number nearest to an integer. -/
def ofInt (n : Int) : Binary64 := ofQuotient n 1

/-- Whether a number is zero. -/
def isZero : Binary64 → Bool
  | .finite _ significand _ => significand = 0
  | _ => false

end Binary64

namespace Bounds

/-- The integer of the range that is nearest to an integer. -/
def clamp (b : Bounds) (n : Int) : Int := max b.low (min b.high n)

end Bounds

namespace Cell

/-- The length of the power of ten that follows the digits of a number; none where it has
    no digits. -/
def powerSize : List Char → Nat
  | e :: s :: cs =>
    if e ≠ 'e' ∧ e ≠ 'E' then 0
    else
      let digits := ((if s = '+' ∨ s = '-' then cs else s :: cs).takeWhile Char.isDigit).length
      if digits = 0 then 0 else 1 + digits + (if s = '+' ∨ s = '-' then 1 else 0)
  | _ => 0

/-- The number at the start of a text behind its white space; zero where there is none. -/
def leadingNumber (s : String) : Cell :=
  let cs := s.toList.dropWhile isAsciiBlank
  let sign := match cs with
    | c :: _ => if c = '+' ∨ c = '-' then 1 else 0
    | [] => 0
  let whole := sign + ((cs.drop sign).takeWhile Char.isDigit).length
  let places := match cs.drop whole with
    | '.' :: rest => 1 + (rest.takeWhile Char.isDigit).length
    | _ => 0
  let power := powerSize (cs.drop (whole + places))
  match Bounds.signed64.readChars (cs.take whole), decide (places + power = 0) with
  | .ok n, true => .integer n
  | _, _ =>
    match Binary64.signedDecimal? (cs.take (whole + places + power)) with
    | some d => .real (Extended.ofDecimal d)
    | none => .integer 0

/-- The value as a number, unless it is absent. -/
def number : Cell → Cell
  | .text s => leadingNumber s
  | c => c

/-- The value as a floating-point number, unless it is absent. -/
def real? (c : Cell) : Option Binary64 :=
  match c.number with
  | .integer n => some (.ofInt n)
  | .real x => some x
  | _ => none

/-- A floating-point number without its places, within 64 bits. -/
def wholePart (x : Binary64) : Int :=
  match x with
  | .notANumber => 0
  | .infinite negative => if negative then Bounds.signed64.low else Bounds.signed64.high
  | .finite .. =>
    match x.quotient? with
    | some (n, d) => Bounds.signed64.clamp (n.tdiv d)
    | none => 0

/-- The whole number at the start of a text, within 64 bits; zero where there is none. -/
def leadingInteger (s : String) : Int :=
  match s.toList.dropWhile isAsciiBlank with
  | '-' :: cs => Bounds.signed64.clamp (-(magnitude cs : Int))
  | '+' :: cs => Bounds.signed64.clamp (magnitude cs)
  | cs => Bounds.signed64.clamp (magnitude cs)
where
  magnitude (cs : List Char) : Nat := (Binary64.takeDigits 0 0 cs).1

/-- The value as a whole number, unless it is absent. -/
def whole? : Cell → Option Int
  | .null => none
  | .integer n => some n
  | .real x => some (wholePart x)
  | .text s => some (leadingInteger s)

/-- The truth of a value: a number is true unless it is zero. -/
def truth (c : Cell) : Truth :=
  match c.number with
  | .integer n => .ofBool (n != 0)
  | .real x => .ofBool (!x.isZero)
  | _ => .unknown

/-- The value of a truth. -/
def ofTruth : Truth → Cell
  | .yes => .integer 1
  | .no => .integer 0
  | .unknown => .null

@[simp] theorem truth_ofTruth (t : Truth) : (ofTruth t).truth = t := by cases t <;> rfl

/-- A floating-point result; absent where it is no number. -/
def ofReal : Binary64 → Cell
  | .notANumber => .null
  | x => .real x

/-- An operation on two values read as floating-point numbers, given by its exact value on
    quotients.  It has no value where that has none or where an operand is not finite. -/
def onReals (f : Int × Nat → Int × Nat → Option (Int × Nat)) (a b : Cell) : Cell :=
  match a.real?.bind Binary64.quotient?, b.real?.bind Binary64.quotient? with
  | some p, some q => ((f p q).map fun (n, d) => Cell.ofReal (.ofQuotient n d)).getD .null
  | _, _ => .null

/-- An operation on two values: on whole numbers while the result is within 64 bits, else
    on floating-point numbers. -/
def arithmetic (f : Int → Int → Int) (g : Int × Nat → Int × Nat → Option (Int × Nat))
    (a b : Cell) : Cell :=
  match a.number, b.number with
  | .integer m, .integer n =>
    if Bounds.signed64.Contains (f m n) then .integer (f m n) else onReals g a b
  | _, _ => onReals g a b

/-- The sum of two values. -/
def plus : Cell → Cell → Cell :=
  arithmetic (· + ·) fun p q => some (p.1 * q.2 + q.1 * p.2, p.2 * q.2)

/-- The difference of two values. -/
def minus : Cell → Cell → Cell :=
  arithmetic (· - ·) fun p q => some (p.1 * q.2 - q.1 * p.2, p.2 * q.2)

/-- The product of two values. -/
def times : Cell → Cell → Cell :=
  arithmetic (· * ·) fun p q => some (p.1 * q.1, p.2 * q.2)

/-- The quotient of two values. -/
def divide (a b : Cell) : Cell :=
  if b.truth = .no then .null
  else
    arithmetic Int.tdiv (fun p q =>
      if q.1 = 0 then none
      else some ((if q.1 < 0 then -p.1 else p.1) * q.2, p.2 * q.1.natAbs)) a b

/-- The remainder of two values without their places, with the sign of the first. -/
def remainder (a b : Cell) : Cell :=
  match a.whole?, b.whole? with
  | some m, some n =>
    if n = 0 then .null
    else
      match a.number, b.number with
      | .integer _, .integer _ => .integer (m.tmod n)
      | _, _ => .real (.ofInt (m.tmod n))
  | _, _ => .null

/-- An operation on the bits of two values. -/
def onBits (f : BitVec 64 → BitVec 64 → BitVec 64) (a b : Cell) : Cell :=
  match a.whole?, b.whole? with
  | some m, some n => .integer (f (.ofInt 64 m) (.ofInt 64 n)).toInt
  | _, _ => .null

/-- The bits of a value the other way round. -/
def complement (a : Cell) : Cell :=
  match a.whole? with
  | some n => .integer (-n - 1)
  | none => .null

/-- The bits of a whole number moved to the left, or to the right by a negative number of
    places.  The sign stays where they move to the right. -/
def shifted (n places : Int) : Int :=
  if places < 0 then n / (Nat.pow 2 (min 64 places.natAbs) : Nat)
  else if 64 ≤ places then 0
  else (BitVec.ofInt 64 (n * (Nat.pow 2 places.toNat : Nat))).toInt

/-- The bits of a value moved to the left. -/
def shiftLeft (a b : Cell) : Cell :=
  match a.whole?, b.whole? with
  | some m, some n => .integer (shifted m n)
  | _, _ => .null

/-- The bits of a value moved to the right. -/
def shiftRight (a b : Cell) : Cell :=
  match a.whole?, b.whole? with
  | some m, some n => .integer (shifted m (-n))
  | _, _ => .null

/-- The text of one value behind that of another. -/
def join (a b : Cell) : Cell :=
  match a.text?, b.text? with
  | some s, some t => .text (s ++ t)
  | _, _ => .null

end Cell

end FilterQuery
