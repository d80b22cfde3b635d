import FilterQuery.Text.Combining
import FilterQuery.Text.LetterCase

namespace FilterQuery.Naming

/-!
# Words of a name

A name such as `user_ID`, `parseURLNow` or `md5hash` consists of words.  Words are split
at underscores, hyphens and blanks, between a lower and an upper case letter, before the
last capital of an acronym that a lower case letter follows, and between letters and ASCII
digits.

The units are letters with the marks that follow them (`Letter`).
-/

/-- A character with the marks that extend it. -/
abbrev Letter := List Char

/-- The letters of a text. -/
def letters : List Char → List Letter
  | [] => []
  | c :: cs =>
    match letters cs with
    | (d :: marks) :: rest =>
      if Text.isExtending d then (c :: d :: marks) :: rest else [c] :: (d :: marks) :: rest
    | rest => [c] :: rest

/-- Whether a letter has case and is in upper case. -/
def isUpper (l : Letter) : Bool :=
  let upper := Text.toUpperCase l
  upper != Text.toLowerCase l && upper == l

/-- Whether a letter has case and is in lower case. -/
def isLower (l : Letter) : Bool :=
  let lower := Text.toLowerCase l
  lower != Text.toUpperCase l && lower == l

/-- Whether a letter is an ASCII digit. -/
def isDigit (l : Letter) : Bool := l.all Char.isDigit

/-- Whether a letter separates words and belongs to none. -/
def isSeparator (l : Letter) : Bool := l = ['_'] || l = ['-'] || l = [' ']

/-- Whether a word ends between two letters, whatever follows. -/
def endsBetween (a b : Letter) : Bool :=
  (isLower a && isUpper b) || (isDigit a && (isUpper b || isLower b))
    || ((isUpper a || isLower a) && isDigit b)

/-- Whether a word ends after a letter, given the letters that follow. -/
def endsBefore (a : Letter) : List Letter → Bool
  | b :: c :: _ => endsBetween a b || (isUpper a && isUpper b && isLower c)
  | [b] => endsBetween a b
  | [] => false

/-- The words between boundaries, empty ones included. -/
def split : List Letter → List (List Letter)
  | [] => [[]]
  | l :: ls =>
    if isSeparator l then [] :: split ls
    else if endsBefore l ls then [l] :: split ls
    else
      match split ls with
      | [] => [[l]]
      | word :: rest => (l :: word) :: rest

/-- The words of a name. -/
def words (name : String) : List (List Letter) :=
  (split (letters name.toList)).filter fun word => !word.isEmpty

/-- The letters of a text hold all of its characters, in order. -/
theorem flatten_letters (cs : List Char) : (letters cs).flatten = cs := by
  induction cs with
  | nil => rfl
  | cons c cs ih =>
    rw [letters]
    split
    · rename_i d marks rest h
      rw [h] at ih
      split <;> simp_all
    · simp [ih]

end FilterQuery.Naming
