import FilterQuery.Calendar.Printer
import FilterQuery.Identifier.Basic
import FilterQuery.Json.Basic

namespace FilterQuery.Json

/-!
# JSON text

`Json.pretty` writes a value over several lines, each level indented by two blanks; an
array or object without members stays on one line.  In texts the quote, the backslash and
the control characters are escaped, nothing else.
-/

/-- The escape of a control character by its code point. -/
def codeEscape (c : Char) : List Char :=
  '\\' :: 'u' :: (hexDigits 4 c.toNat).map hexChar

/-- A character inside a text. -/
def escape (c : Char) : List Char :=
  if c = '"' then ['\\', '"']
  else if c = '\\' then ['\\', '\\']
  else if c = '\n' then ['\\', 'n']
  else if c = '\r' then ['\\', 'r']
  else if c = '\t' then ['\\', 't']
  else if c.toNat = 8 then ['\\', 'b']
  else if c.toNat = 12 then ['\\', 'f']
  else if c.toNat < 32 then codeEscape c
  else [c]

/-- A text in quotes. -/
def quote (s : String) : String := String.ofList ('"' :: s.toList.flatMap escape ++ ['"'])

/-- The start of a line at the given level. -/
def indent (level : Nat) : String := String.ofList ('\n' :: List.replicate (2 * level) ' ')

/-- Members between brackets, each on a line of its own. -/
def block (level : Nat) (first last : String) (members : List String) : String :=
  if members.isEmpty then first ++ last
  else
    first ++ indent (level + 1) ++ ("," ++ indent (level + 1)).intercalate members
      ++ indent level ++ last

mutual

/-- A value whose lines are at the given level. -/
def prettyAt (level : Nat) : Json → String
  | .null => "null"
  | .boolean b => if b then "true" else "false"
  | .integer n => toString n
  | .fraction => "0.0"
  | .text s => quote s
  | .array items => block level "[" "]" (prettyItems level items)
  | .object entries => block level "\x7b" "\x7d" (prettyEntries level entries)

/-- The items of an array. -/
def prettyItems (level : Nat) : List Json → List String
  | [] => []
  | j :: js => prettyAt (level + 1) j :: prettyItems level js

/-- The entries of an object. -/
def prettyEntries (level : Nat) : List (String × Json) → List String
  | [] => []
  | (key, j) :: rest => (quote key ++ ": " ++ prettyAt (level + 1) j) :: prettyEntries level rest

end

/-- A value over several lines. -/
def pretty (j : Json) : String := prettyAt 0 j

end FilterQuery.Json
