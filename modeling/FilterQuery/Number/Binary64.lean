import FilterQuery.Number.Integer

namespace FilterQuery

/-!
# Binary floating-point numbers of 64 bits

A finite number is a sign, a significand below `2^53` and a power of two.  Reading a
decimal rounds to the nearest such number, a tie to the even significand; printing gives
the fewest significant digits that read back.

* `Binary64.ofRatio` — the nearest number to a quotient of natural numbers;
* `Binary64.read?` — the number that a decimal text stands for;
* `Binary64.text` — the shortest decimal, written without an exponent;
* `Binary64.compareInt` — the order against an integer, by exact value.
-/

/-- A floating-point number of 64 bits.  A finite one is
    `significand * 2^exponent`, negated where `negative` says so. -/
inductive Binary64 where
  | finite (negative : Bool) (significand : Nat) (exponent : Int)
  | infinite (negative : Bool)
  | notANumber
  deriving DecidableEq

/-- `n / d` to the nearest integer, a tie to the even one. -/
def roundHalfEven (n d : Nat) : Nat :=
  let q := n / d
  let twice := 2 * (n % d)
  if twice < d then q
  else if d < twice then q + 1
  else if q % 2 = 0 then q else q + 1

/-- `n * 2^e` and `d * 2^(-e)` as natural numbers: the two sides of a quotient scaled by
    a power of two. -/
def scaleByTwo (n d : Nat) (e : Int) : Nat × Nat :=
  if 0 ≤ e then (n * Nat.pow 2 e.toNat, d) else (n, d * Nat.pow 2 (-e).toNat)

/-- A quotient scaled by a power of ten. -/
def scaleByTen (n d : Nat) (e : Int) : Nat × Nat :=
  if 0 ≤ e then (n * Nat.pow 10 e.toNat, d) else (n, d * Nat.pow 10 (-e).toNat)

namespace Binary64

/-- The smallest exponent of a finite number. -/
def lowExponent : Int := -1074

/-- The largest exponent of a finite number. -/
def highExponent : Int := 971

/-- The bound of significands, `2^53`. -/
def significandBound : Nat := 9007199254740992

/-- The exponent at which `n / d` has a significand of 53 bits, or the smallest one. -/
def exponentFor (n d : Nat) : Int :=
  let guess : Int := (Nat.log2 n : Int) - Nat.log2 d - 53
  let (a, b) := scaleByTwo n d (-guess)
  let exact := if significandBound * b ≤ a then guess + 1 else guess
  max exact lowExponent

/-- The number nearest to `n / d`. -/
def ofRatio (negative : Bool) (n d : Nat) : Binary64 :=
  if n = 0 then .finite negative 0 lowExponent
  else
    let e := exponentFor n d
    let (a, b) := scaleByTwo n d (-e)
    let m := roundHalfEven a b
    let (m, e) := if m = significandBound then (significandBound / 2, e + 1) else (m, e)
    if highExponent < e then .infinite negative else .finite negative m e

/-- A decimal numeral: its digits as one number, and the power of ten they are times. -/
structure Decimal where
  negative : Bool
  digits : Nat
  power : Int

/-- The leading digits of a text as a number, their count, and what follows. -/
def takeDigits (n count : Nat) : List Char → Nat × Nat × List Char
  | [] => (n, count, [])
  | c :: cs =>
    match digit? c with
    | none => (n, count, c :: cs)
    | some d => takeDigits (10 * n + d) (count + 1) cs

/-- The exponent of a numeral: nothing, or a letter E, an optional sign and digits. -/
def exponent? : List Char → Option Int
  | [] => some 0
  | c :: cs =>
    if c = 'e' ∨ c = 'E' then
      let (negative, cs) := match cs with
        | '-' :: cs => (true, cs)
        | '+' :: cs => (false, cs)
        | cs => (false, cs)
      match takeDigits 0 0 cs with
      | (_, 0, _) => none
      | (n, _, []) => some (if negative then -(n : Int) else n)
      | _ => none
    else none

/-- Reads digits with an optional point and exponent; a digit has to stand on at least
    one side of the point. -/
def decimal? (negative : Bool) (cs : List Char) : Option Decimal :=
  let (whole, wholeCount, rest) := takeDigits 0 0 cs
  let (digits, count, places, rest) := match rest with
    | '.' :: rest =>
      let (digits, places, rest) := takeDigits whole 0 rest
      (digits, wholeCount + places, places, rest)
    | rest => (whole, wholeCount, 0, rest)
  if count = 0 then none
  else (exponent? rest).map fun e => ⟨negative, digits, e - places⟩

/-- The number nearest to a decimal. -/
def ofDecimal (x : Decimal) : Binary64 :=
  let magnitude : Int := (Nat.log2 x.digits : Int) / 3 + x.power
  if x.digits = 0 then .finite x.negative 0 lowExponent
  else if 400 < magnitude ∧ 400 < x.power then .infinite x.negative
  else if x.power < -400 - (Nat.log2 x.digits : Int) then .finite x.negative 0 lowExponent
  else
    let (a, b) := scaleByTen x.digits 1 x.power
    ofRatio x.negative a b

/-- Reads a decimal with an optional sign. -/
def signedDecimal? : List Char → Option Decimal
  | '-' :: cs => decimal? true cs
  | '+' :: cs => decimal? false cs
  | cs => decimal? false cs

/-- The number that a text stands for: a decimal, or the text of what is no finite
    number. -/
def read? (s : String) : Option Binary64 :=
  if s = "NaN" then some .notANumber
  else if s = "inf" then some (.infinite false)
  else if s = "-inf" then some (.infinite true)
  else (signedDecimal? s.toList).map ofDecimal

/-- The absolute value of a finite number as a quotient. -/
def ratio (significand : Nat) (exponent : Int) : Nat × Nat := scaleByTwo significand 1 exponent

/-- The power of ten `k` with `10^(k-1) ≤ n/d < 10^k`, searched upwards from below. -/
def decimalSize (n d : Nat) : Int :=
  let start : Int := ((Nat.log2 n : Int) - Nat.log2 d - 1) * 3 / 10 - 1
  let rec search (fuel : Nat) (k : Int) : Int :=
    match fuel with
    | 0 => k
    | fuel + 1 =>
      let (a, b) := scaleByTen n d (-k)
      if a < b then k else search fuel (k + 1)
  search 40 start

/-- Whether `digits * 10^power` reads back as the positive finite number. -/
def readsBack (significand : Nat) (exponent : Int) (digits : Nat) (power : Int) : Bool :=
  let (a, b) := scaleByTen digits 1 power
  decide (ofRatio false a b = .finite false significand exponent)

/-- The shortest digits and their power of ten for a positive finite number: on grids of
    1, 2, … significant digits, the nearer neighbour of the value that reads back. -/
def shortest (significand : Nat) (exponent : Int) : Nat × Int :=
  let (n, d) := ratio significand exponent
  let size := decimalSize n d
  let rec search (fuel count : Nat) : Nat × Int :=
    let power := size - count
    let (a, b) := scaleByTen n d (-power)
    let near := roundHalfEven a b
    match fuel with
    | 0 => (near, power)
    | fuel + 1 =>
      let below := a / b
      if readsBack significand exponent near power then (near, power)
      else if readsBack significand exponent below power then (below, power)
      else if readsBack significand exponent (below + 1) power then (below + 1, power)
      else search fuel (count + 1)
  search 16 1

/-- Digits times a power of ten, written without an exponent. -/
def positional (digits : Nat) (power : Int) : List Char :=
  let cs := Nat.toDigits 10 digits
  if 0 ≤ power then cs ++ List.replicate power.toNat '0'
  else
    let places := (-power).toNat
    let cs := List.replicate (places + 1 - cs.length) '0' ++ cs
    cs.take (cs.length - places) ++ '.' :: cs.drop (cs.length - places)

/-- Digits without the zeros at their end, and the power of ten raised for each. -/
def dropZeros (fuel digits : Nat) (power : Int) : Nat × Int :=
  match fuel with
  | 0 => (digits, power)
  | fuel + 1 =>
    if digits % 10 = 0 then dropZeros fuel (digits / 10) (power + 1) else (digits, power)

/-- The shortest decimal that reads back, without an exponent. -/
def text : Binary64 → String
  | .notANumber => "NaN"
  | .infinite negative => if negative then "-inf" else "inf"
  | .finite negative 0 _ => if negative then "-0" else "0"
  | .finite negative significand exponent =>
    let (digits, power) := shortest significand exponent
    let (digits, power) := dropZeros 20 digits power
    String.ofList ((if negative then ['-'] else []) ++ positional digits power)

/-- The order of a finite value against a quotient with a sign. -/
def compareRatio (negative : Bool) (n d : Nat) (otherNegative : Bool) (m e : Nat) : Ordering :=
  let left : Int := if negative then -((n * e : Nat) : Int) else (n * e : Nat)
  let right : Int := if otherNegative then -((m * d : Nat) : Int) else (m * d : Nat)
  compare left right

/-- The order of a number against an integer, by exact value; none for what is not a
    number. -/
def compareInt (x : Binary64) (n : Int) : Option Ordering :=
  match x with
  | .notANumber => none
  | .infinite negative => some (if negative then .lt else .gt)
  | .finite negative significand exponent =>
    let (a, b) := ratio significand exponent
    some (compareRatio negative a b (decide (n < 0)) n.natAbs 1)

/-- The order of two numbers by exact value; none where one is not a number. -/
def compareExact (x y : Binary64) : Option Ordering :=
  match x, y with
  | .notANumber, _ => none
  | _, .notANumber => none
  | .infinite p, .infinite q => some (compare q.toNat p.toNat)
  | .infinite p, .finite .. => some (if p then .lt else .gt)
  | .finite .., .infinite q => some (if q then .gt else .lt)
  | .finite p m e, .finite q k f =>
    let (a, b) := ratio m e
    let (c, d) := ratio k f
    some (compareRatio p a b q c d)

end Binary64

end FilterQuery
