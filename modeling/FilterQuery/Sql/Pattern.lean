import FilterQuery.Text.Ascii

namespace FilterQuery.Pattern

/-!
# Patterns of texts

In a pattern `%` stands for any run of characters and `_` for any one character; every
other character stands for itself, in either case if it is an ASCII letter.

Matching reads a text up to its first null character, and takes the two noncharacters
`U+FFFE` and `U+FFFF` for the replacement character `U+FFFD`; so it does with the pattern.

The pattern is matched against all ends of the text at once, from its last character to
its first: entry `i` of a row says whether the part of the pattern seen so far matches the
text without its first `i` characters.
-/

/-- Whether a character of a pattern, other than `%`, stands for a character. -/
def accepts (p c : Char) : Bool := p = '_' || Text.sameLetter p c

/-- For each end of a row, whether it or a shorter one matches. -/
def orShorter : List Bool → List Bool
  | [] => []
  | b :: bs => (b || (orShorter bs).headD false) :: orShorter bs

/-- For each end of the text, whether it begins with a character that `p` stands for and
    the rest matches. -/
def afterChar (p : Char) : List Char → List Bool → List Bool
  | c :: cs, _ :: row => (accepts p c && row.headD false) :: afterChar p cs row
  | _, _ => [false]

/-- For each end of a text, from the whole text to the empty one, whether a pattern
    matches it. -/
def row (text : List Char) : List Char → List Bool
  | [] => text.map (fun _ => false) ++ [true]
  | p :: ps => if p = '%' then orShorter (row text ps) else afterChar p text (row text ps)

/-- The character that matching takes a character for. -/
def readAs (c : Char) : Char := if c = '\uFFFE' ∨ c = '\uFFFF' then '\uFFFD' else c

/-- What matching reads of a text. -/
def visible (s : String) : List Char :=
  (s.toList.takeWhile fun c => decide (c ≠ Char.ofNat 0)).map readAs

/-- Whether a pattern matches a text. -/
def matches? (pattern text : String) : Bool := (row (visible text) (visible pattern)).headD false

end FilterQuery.Pattern
