import FilterQuery.Text.Combining
import FilterQuery.Text.Hidden

namespace FilterQuery.Text

/-!
# Quoted texts

A quoted text shows every character: quotes, backslashes and line ends have escapes of
their own, and characters that would not be seen, or that would change the one before
them, are written by their code point.
-/

/-- The hexadecimal digits of a number. -/
def hexText (n : Nat) : List Char := Nat.toDigits 16 n

/-- A character inside a quoted text. -/
def showChar (c : Char) : List Char :=
  if c = '"' then ['\\', '"']
  else if c = '\\' then ['\\', '\\']
  else if c = '\n' then ['\\', 'n']
  else if c = '\r' then ['\\', 'r']
  else if c = '\t' then ['\\', 't']
  else if c.toNat = 0 then ['\\', '0']
  else if isExtending c || isHidden c then
    '\\' :: 'u' :: Char.ofNat 0x7b :: hexText c.toNat ++ [Char.ofNat 0x7d]
  else [c]

/-- A text in quotes. -/
def quoted (s : String) : String := String.ofList ('"' :: s.toList.flatMap showChar ++ ['"'])

end FilterQuery.Text
