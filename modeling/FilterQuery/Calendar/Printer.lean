import FilterQuery.Calendar.Basic

namespace FilterQuery

/-!
# Timestamps as text

* `Timestamp.text` — `YYYY-MM-DD HH:MM:SS`, the form stored in and compared by a
  database column; it drops the fraction of a second;
* `Timestamp.isoText` — `YYYY-MM-DDTHH:MM:SS` with a fraction of three, six or nine
  digits where there is one.

A year from 0 to 9999 has four digits; any other year has a sign and at least four.
-/

/-- The digit character of a number below ten. -/
def digitChar (n : Nat) : Char := Char.ofNat ('0'.toNat + n)

/-- The last `width` decimal digits of a number, with leading zeros. -/
def fixedDigits : Nat → Nat → List Char
  | 0, _ => []
  | width + 1, n => fixedDigits width (n / 10) ++ [digitChar (n % 10)]

/-- The decimal digits of a number, at least `width` of them. -/
def paddedDigits (width n : Nat) : List Char :=
  let digits := Nat.toDigits 10 n
  List.replicate (width - digits.length) '0' ++ digits

/-- A year of four digits, or with a sign where four digits do not hold it. -/
def yearChars (year : Int) : List Char :=
  if 0 ≤ year ∧ year ≤ 9999 then fixedDigits 4 year.toNat
  else (if year < 0 then '-' else '+') :: paddedDigits 4 year.natAbs

/-- `YYYY-MM-DD`. -/
def Date.chars (d : Date) : List Char :=
  yearChars d.year ++ '-' :: fixedDigits 2 d.month ++ '-' :: fixedDigits 2 d.day

/-- `HH:MM:SS`, with second 60 in a leap second at the end of a minute. -/
def TimeOfDay.chars (t : TimeOfDay) : List Char :=
  fixedDigits 2 t.hour ++ ':' :: fixedDigits 2 t.minute ++ ':' :: fixedDigits 2 t.clockSecond

/-- A point and three, six or nine digits, as few as hold the fraction; nothing for none. -/
def fractionChars (nanos : Nat) : List Char :=
  if nanos = 0 then []
  else if nanos % 1000000 = 0 then '.' :: fixedDigits 3 (nanos / 1000000)
  else if nanos % 1000 = 0 then '.' :: fixedDigits 6 (nanos / 1000)
  else '.' :: fixedDigits 9 nanos

namespace Timestamp

/-- The characters of `text`. -/
def chars (t : Timestamp) : List Char := t.date.chars ++ ' ' :: t.time.chars

/-- `YYYY-MM-DD HH:MM:SS`. -/
def text (t : Timestamp) : String := String.ofList t.chars

/-- `YYYY-MM-DDTHH:MM:SS` and the fraction of the second. -/
def isoText (t : Timestamp) : String :=
  String.ofList (t.date.chars ++ 'T' :: t.time.chars ++ fractionChars t.time.clockFraction)

end Timestamp

/-- `fixedDigits` gives exactly the digits asked for. -/
@[simp] theorem length_fixedDigits (width n : Nat) : (fixedDigits width n).length = width := by
  induction width generalizing n with
  | zero => rfl
  | succ w ih => simp [fixedDigits, ih]

end FilterQuery
