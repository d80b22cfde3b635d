import FilterQuery.Search.Names
import FilterQuery.Search.Reader

namespace FilterQuery.Search

/-!
# Clauses of a statement

A statement is a condition with a tail, which orders the rows and cuts a window out of
them.  The text of the condition may hold more or less than a condition: where a comment
or a semicolon hides the tail, the rows are given as they are.

`Clause.read` reads condition and tail together and reports the first token that cannot
be there.
-/

/-- What stands behind a condition: the tail as it was written, nothing, or a second
    statement that is refused. -/
inductive Ending where
  | tail
  | nothing
  | refused (e : SearchError)
  deriving DecidableEq

/-- A condition and what stands behind it. -/
structure Clause where
  condition : Expression
  ending : Ending

/-- The error of a statement that cannot go on with some tokens. -/
def errorAt : List (Token × String) → SearchError
  | [] => .incomplete
  | (.illegal, spelling) :: _ => .unrecognized spelling
  | (_, spelling) :: _ => .unexpected spelling

/-- The largest number of a placeholder. -/
def largestPlaceholder : Nat := 32766

/-- Whether a number is that of no placeholder. -/
def isBadPlaceholder (n : Nat) : Bool := n = 0 || largestPlaceholder < n

/-- Whether a token is a placeholder with a number that none has. -/
def Token.isBadPlaceholder : Token → Bool
  | .placeholder (some n) => Search.isBadPlaceholder n
  | _ => false

/-- The error of the first parameter that is no placeholder. -/
def parameterFault? : List Token → Option SearchError
  | [] => none
  | .parameter word :: _ =>
    match word.toList with
    | '$' :: cs => some (.parameterName (String.ofList cs))
    | _ => some (.parameterFormat word)
  | _ :: ts => parameterFault? ts

/-- What stands behind a condition, given the tokens of the tail. -/
def Ending.ofTokens (tail : List (Token × String)) (rest : List (Token × String)) :
    Except SearchError Ending :=
  if rest = tail then .ok .tail
  else
    match rest with
    | [] => .ok .nothing
    | (.semicolon, _) :: more =>
      match more.dropWhile fun t => decide (t.1 = .semicolon) with
      | [] => .ok .nothing
      | more => .ok (.refused (errorAt more))
    | rest => .error (errorAt rest)

namespace Clause

/-- The condition at the front of a statement with a tail. -/
def read (text tail : String) : Except SearchError Clause :=
  let spelled := Token.spelled (text ++ tail).toList
  let behind (left : Nat) : List (Token × String) := spelled.drop (spelled.length - left)
  let checked (left : Nat) (e : SearchError) : SearchError :=
    if (spelled.take (spelled.length - left)).any fun t => t.1.isBadPlaceholder then .placeholder
    else e
  match Expression.ofTokens (Token.numbered 0 (spelled.map Prod.fst)) with
  | .error left => .error (checked left (errorAt (behind left)))
  | .ok (e, rest) =>
    match Ending.ofTokens (Token.spelled tail.toList) (behind rest.length) with
    | .error error => .error (checked rest.length error)
    | .ok ending =>
      if (spelled.map Prod.fst).any Token.isBadPlaceholder then .error .placeholder
      else .ok ⟨e, ending⟩

end Clause

end FilterQuery.Search
