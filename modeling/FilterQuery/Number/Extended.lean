import FilterQuery.Number.Binary64

namespace FilterQuery

/-!
# Decimals by way of a significand of 64 bits

A database converts between floating-point numbers and decimal texts with a significand of
64 bits in between.  It multiplies by powers of ten, and each product is rounded to the
nearest number of that precision, so the last digits may differ from those of the exact
value.

* `Extended.ofDecimal` — the floating-point number that a database reads for a decimal;
* `Extended.decimal` — seventeen to nineteen digits and a power of ten for a number;
* `Extended.significant` — the same, rounded to fewer digits.
-/

/-- The positive number `significand * 2^exponent`. -/
structure Extended where
  significand : Nat
  exponent : Int
  deriving DecidableEq, Repr

namespace Extended

/-- The bound of significands, `2^64`. -/
def significandBound : Nat := 18446744073709551616

/-- The number nearest to `n * 2^e`, a tie to the even significand. -/
def round (n : Nat) (e : Int) : Extended :=
  let excess := Nat.log2 n + 1 - 64
  ⟨roundHalfEven n (Nat.pow 2 excess), e + excess⟩

/-- The power of two at which `1 / d` has a significand of 64 bits. -/
def exponentFor (d : Nat) : Int :=
  let guess : Int := -(Nat.log2 d : Int) - 64
  let (a, b) := scaleByTwo 1 d (-guess)
  if significandBound * b ≤ a then guess + 1 else guess

/-- The number nearest to `1 / d`. -/
def reciprocal (d : Nat) : Extended :=
  let e := exponentFor d
  let (a, b) := scaleByTwo 1 d (-e)
  ⟨roundHalfEven a b, e⟩

/-- The number nearest to a power of ten. -/
def powerOfTen (k : Int) : Extended :=
  if 0 ≤ k then round (Nat.pow 10 k.toNat) 0 else reciprocal (Nat.pow 10 (-k).toNat)

/-- The product, rounded. -/
def mul (x y : Extended) : Extended :=
  round (x.significand * y.significand) (x.exponent + y.exponent)

/-- Whether a number is below another. -/
def below (x y : Extended) : Bool :=
  let (a, b) := scaleByTwo x.significand 1 x.exponent
  let (c, d) := scaleByTwo y.significand 1 y.exponent
  decide (a * d < c * b)

/-- The integer part. -/
def floor (x : Extended) : Nat :=
  let (a, b) := scaleByTwo x.significand 1 x.exponent
  a / b

/-- Multiplies by a power of ten so many times. -/
def times (power : Int) : Nat → Extended → Extended
  | 0, x => x
  | n + 1, x => times power n (x.mul (powerOfTen power))

/-- Multiplies by a power of ten in steps of a hundred, of ten and of one. -/
def scale (k : Int) (x : Extended) : Extended :=
  let sign : Int := if k < 0 then -1 else 1
  let n := k.natAbs
  times sign (n % 10) (times (sign * 10) (n / 10 % 10) (times (sign * 100) (n / 100) x))

/-! ## Reading -/

/-- The bound from which no further digit is read. -/
def readingBound : Nat := 1844674407370955160

/-- The bound below which a factor of ten still fits. -/
def factorBound : Nat := 1844674407370954956

/-- Digits without those behind the first that reaches the reading bound, and the power of
    ten raised for each one dropped. -/
def firstDigits (fuel digits : Nat) (power : Int) : Nat × Int :=
  match fuel with
  | 0 => (digits, power)
  | fuel + 1 =>
    if readingBound ≤ digits / 10 then firstDigits fuel (digits / 10) (power + 1)
    else (digits, power)

/-- Digits with as much of a positive power of ten as fits. -/
def absorb (fuel digits : Nat) (power : Int) : Nat × Int :=
  match fuel with
  | 0 => (digits, power)
  | fuel + 1 =>
    if 0 < power ∧ digits < factorBound then absorb fuel (digits * 10) (power - 1)
    else (digits, power)

/-- Digits without the zeros at their end, as far as the power of ten is negative. -/
def release (fuel digits : Nat) (power : Int) : Nat × Int :=
  match fuel with
  | 0 => (digits, power)
  | fuel + 1 =>
    if power < 0 ∧ digits % 10 = 0 then release fuel (digits / 10) (power + 1)
    else (digits, power)

/-- The largest finite floating-point number. -/
def largest : Extended := ⟨9007199254740991, 971⟩

/-- The floating-point number nearest to a number; what is above the largest is infinite. -/
def toBinary64 (negative : Bool) (x : Extended) : Binary64 :=
  if largest.below x then .infinite negative
  else
    let (a, b) := scaleByTwo x.significand 1 x.exponent
    Binary64.ofRatio negative a b

/-- The floating-point number that a database reads for a decimal. -/
def ofDecimal (x : Binary64.Decimal) : Binary64 :=
  let (digits, power) := firstDigits (Nat.log2 x.digits) x.digits x.power
  let (digits, power) := absorb 20 digits power
  let (digits, power) := release 20 digits power
  if digits = 0 then .finite x.negative 0 Binary64.lowExponent
  else if 400 < power then .infinite x.negative
  else if power < -400 then .finite x.negative 0 Binary64.lowExponent
  else toBinary64 x.negative (scale power ⟨digits, 0⟩)

/-! ## Writing -/

/-- Divides by a power of ten while the number is not below a bound; `power` counts what is
    taken away. -/
def shrink (fuel step : Nat) (bound : Extended) (x : Extended) (power : Int) : Extended × Int :=
  match fuel with
  | 0 => (x, power)
  | fuel + 1 =>
    if x.below bound then (x, power)
    else shrink fuel step bound (x.mul (powerOfTen (-(step : Int)))) (power + step)

/-- Multiplies by a power of ten while the number is below a bound. -/
def grow (fuel step : Nat) (bound : Extended) (x : Extended) (power : Int) : Extended × Int :=
  match fuel with
  | 0 => (x, power)
  | fuel + 1 =>
    if x.below bound then grow fuel step bound (x.mul (powerOfTen step)) (power - step)
    else (x, power)

/-- Eighteen or nineteen digits and the power of ten they are times, for a positive
    number. -/
def decimal (x : Extended) : Nat × Int :=
  let (y, power) :=
    if x.below (powerOfTen 19) then
      let (y, power) := grow 4 100 (powerOfTen (-97)) x 0
      let (y, power) := grow 12 10 (powerOfTen 7) y power
      grow 12 1 (powerOfTen 17) y power
    else
      let (y, power) := shrink 4 100 (powerOfTen 119) x 0
      let (y, power) := shrink 12 10 (powerOfTen 29) y power
      shrink 12 1 (powerOfTen 19) y power
  (y.floor, power)

/-- The first `count` of those digits and their power of ten.  The digit behind them rounds
    them up from five on. -/
def significant (count : Nat) (x : Extended) : Nat × Int :=
  let (digits, power) := decimal x
  let dropped := (Nat.toDigits 10 digits).length - count
  let kept := digits / Nat.pow 10 dropped
  let next := digits / Nat.pow 10 (dropped - 1) % 10
  (if 0 < dropped ∧ 5 ≤ next then kept + 1 else kept, power + dropped)

end Extended

end FilterQuery
