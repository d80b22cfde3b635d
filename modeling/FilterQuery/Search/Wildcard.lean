import FilterQuery.Sql.Pattern

namespace FilterQuery.Search

/-!
# Wildcards

Besides plain patterns there are two more kinds: patterns with a sign that takes the
meaning from the character behind it, and patterns with stars, question marks and classes
of characters, which heed letter case.  Both are lists of pieces.
-/

/-- A part of a pattern: any run of characters, or one character of some. -/
inductive Piece where
  | run
  | one (accepts : Char → Bool)

namespace Piece

/-- For each end of a text, whether it begins with a character that is accepted and the
    rest matches. -/
def afterOne (accepts : Char → Bool) : List Char → List Bool → List Bool
  | c :: cs, _ :: row => (accepts c && row.headD false) :: afterOne accepts cs row
  | _, _ => [false]

/-- For each end of a text, from the whole text to the empty one, whether pieces match
    it. -/
def row (text : List Char) : List Piece → List Bool
  | [] => text.map (fun _ => false) ++ [true]
  | .run :: ps => Pattern.orShorter (row text ps)
  | .one accepts :: ps => afterOne accepts text (row text ps)

/-- Whether pieces match a text. -/
def matches? (ps : List Piece) (text : List Char) : Bool := (row text ps).headD false

/-- The pieces of a pattern with an escape sign; none where nothing follows the sign. -/
def ofEscaped? (escape : Char) : List Char → Option (List Piece)
  | [] => some []
  | [p] =>
    if p = escape then none else some [if p = '%' then .run else .one (Pattern.accepts p)]
  | p :: q :: ps =>
    if p = escape then (ofEscaped? escape ps).map (.one (Text.sameLetter q) :: ·)
    else
      (ofEscaped? escape (q :: ps)).map
        ((if p = '%' then .run else .one (Pattern.accepts p)) :: ·)

/-- The tests of a class up to its end, and what follows; none where it has no end.  A dash
    behind a character of the class, `before`, stands for those up to the next one. -/
def readClass (before : Option Char) : List Char → Option (List (Char → Bool) × List Char)
  | [] => none
  | [c] => if c = ']' then some ([], []) else none
  | c :: d :: cs =>
    if c = ']' then some ([], d :: cs)
    else
      match before, decide (c = '-' ∧ d ≠ ']') with
      | some a, true => (readClass none cs).map fun (tests, rest) => (between a d :: tests, rest)
      | _, _ =>
        (readClass (some c) (d :: cs)).map fun (tests, rest) => ((fun x => x = c) :: tests, rest)
where
  between (a d : Char) (x : Char) : Bool := a.toNat ≤ x.toNat && x.toNat ≤ d.toNat

/-- A class behind its opening sign, and what follows.  A first circumflex negates it, and
    a bracket before all others belongs to it. -/
def readNegatedClass (cs : List Char) : Option ((Char → Bool) × List Char) :=
  let (negated, cs) := match cs with
    | '^' :: cs => (true, cs)
    | cs => (false, cs)
  let (tests, cs) := match cs with
    | ']' :: cs => ([fun x => decide (x = ']')], cs)
    | cs => ([], cs)
  (readClass none cs).map fun (more, rest) =>
    (fun x => (tests ++ more).any (fun test => test x) != negated, rest)

/-- The pieces of a pattern with stars, question marks and classes, in so many steps at
    most; none where a class has no end. -/
def ofStarred? : Nat → List Char → Option (List Piece)
  | 0, _ => some []
  | _, [] => some []
  | n + 1, c :: cs =>
    if c = '*' then (ofStarred? n cs).map (.run :: ·)
    else if c = '?' then (ofStarred? n cs).map (.one (fun _ => true) :: ·)
    else if c = '[' then
      match readNegatedClass cs with
      | none => none
      | some (accepts, rest) => (ofStarred? n rest).map (.one accepts :: ·)
    else (ofStarred? n cs).map (.one (fun x => x = c) :: ·)

end Piece

/-- Whether a pattern with an escape sign matches a text. -/
def matchesEscaped (escape : Char) (pattern text : String) : Bool :=
  match Piece.ofEscaped? escape (Pattern.visible pattern) with
  | some ps => Piece.matches? ps (Pattern.visible text)
  | none => false

/-- Whether a pattern with stars, question marks and classes matches a text. -/
def matchesStarred (pattern text : String) : Bool :=
  match Piece.ofStarred? pattern.length (Pattern.visible pattern) with
  | some ps => Piece.matches? ps (Pattern.visible text)
  | none => false

end FilterQuery.Search
