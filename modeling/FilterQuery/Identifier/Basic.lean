namespace FilterQuery

/-!
# Universally unique identifiers

A `Uuid` is 128 bits.  Its canonical text is 32 lower-case hexadecimal digits in groups
of 8, 4, 4, 4 and 12, separated by hyphens.
-/

/-- An identifier of 128 bits. -/
structure Uuid where
  bits : BitVec 128
  deriving DecidableEq

/-- The character of a hexadecimal digit, in lower case. -/
def hexChar (n : Nat) : Char :=
  if n < 10 then Char.ofNat ('0'.toNat + n) else Char.ofNat ('a'.toNat + (n - 10))

/-- The value of a hexadecimal digit in either case. -/
def hexValue? (c : Char) : Option Nat :=
  if c.isDigit then some (c.toNat - '0'.toNat)
  else if 'a' ≤ c ∧ c ≤ 'f' then some (c.toNat - 'a'.toNat + 10)
  else if 'A' ≤ c ∧ c ≤ 'F' then some (c.toNat - 'A'.toNat + 10)
  else none

/-- The last `width` hexadecimal digits of a number, with leading zeros. -/
def hexDigits : Nat → Nat → List Nat
  | 0, _ => []
  | width + 1, n => hexDigits width (n / 16) ++ [n % 16]

/-- The number that hexadecimal digits stand for. -/
def ofHexDigits (digits : List Nat) : Nat := digits.foldl (fun n d => 16 * n + d) 0

namespace Uuid

/-- The widths of the five groups of the hyphenated form. -/
def groups : List Nat := [8, 4, 4, 4, 12]

/-- The identifier that 32 hexadecimal digits stand for. -/
def ofDigits (digits : List Nat) : Uuid := ⟨BitVec.ofNat 128 (ofHexDigits digits)⟩

/-- The 32 hexadecimal digits. -/
def digits (u : Uuid) : List Nat := hexDigits 32 u.bits.toNat

/-- Characters in groups of the given widths, separated by hyphens. -/
def hyphenate : List Nat → List Char → List Char
  | [], _ => []
  | [w], cs => cs.take w
  | w :: ws, cs => cs.take w ++ '-' :: hyphenate ws (cs.drop w)

/-- The characters of the canonical text. -/
def chars (u : Uuid) : List Char := hyphenate groups (u.digits.map hexChar)

/-- The canonical text: hyphenated, in lower case. -/
def text (u : Uuid) : String := String.ofList u.chars

end Uuid

end FilterQuery
