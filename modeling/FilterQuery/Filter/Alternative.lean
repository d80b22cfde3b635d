import FilterQuery.Filter.Operator

namespace FilterQuery

/-!
# Alternatives of a filter value

A filter value such as `not_5|7|null` lists alternatives, separated by `|`.  An
alternative may begin with `not_`, in any ASCII case, and what remains is its literal;
the literal `null`, in any ASCII case, asks for an absent value.

* `Alternative.split` — the alternatives of a value;
* `Parsed` — an alternative whose literal has been read as a value of some type.
-/

/-- One alternative of a filter value, before its literal is read. -/
structure Alternative where
  operator : Operator
  negated : Bool
  literal : String
  deriving DecidableEq

/-- An alternative with the value that its literal stands for; an alternative for `null`
    has none. -/
structure Parsed (α : Type) where
  operator : Operator
  negated : Bool
  value : Option α
  deriving DecidableEq

namespace Alternative

/-- The character between two alternatives. -/
def separator : Char := '|'

/-- The start of a negated alternative. -/
def negation : String := "not_"

/-- The parts of a text between separators; a text without one is a single part. -/
def pieces : List Char → List (List Char)
  | [] => [[]]
  | c :: cs =>
    if c = separator then [] :: pieces cs
    else
      match pieces cs with
      | [] => [[c]]
      | p :: ps => (c :: p) :: ps

/-- The parts without the empty ones at the end. -/
def dropTrailingEmpty : List (List Char) → List (List Char)
  | [] => []
  | p :: ps =>
    match dropTrailingEmpty ps with
    | [] => if p.isEmpty then [] else [p]
    | rest => p :: rest

/-- The alternative that a literal stands for. -/
def ofLiteral (negated : Bool) (literal : String) : Alternative where
  operator := if Text.sameIgnoringCase literal Operator.null.token then .null else .equals
  negated := negated
  literal := literal

/-- The alternative that a part of a filter value stands for. -/
def ofPiece (piece : String) : Alternative :=
  match Text.dropStart? negation piece with
  | some rest => ofLiteral true rest
  | none => ofLiteral false piece

/-- The alternatives of a filter value, in order.  Empty parts at the end are no
    alternatives, so an absent or empty value has none. -/
def split (raw : Option String) : List Alternative :=
  match raw with
  | none => []
  | some text => (dropTrailingEmpty (pieces text.toList)).map fun cs => ofPiece (String.ofList cs)

/-- Whether the alternative asks for an absent value. -/
def isNull (a : Alternative) : Bool := a.operator = .null

theorem pieces_ne_nil (cs : List Char) : pieces cs ≠ [] := by
  induction cs with
  | nil => simp [pieces]
  | cons c cs ih =>
    rw [pieces]
    split
    · simp
    · split <;> simp

end Alternative

end FilterQuery
