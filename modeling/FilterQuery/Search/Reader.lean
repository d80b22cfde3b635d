import FilterQuery.Search.Expression

namespace FilterQuery.Search

/-!
# Reading search conditions

`Expression.ofTokens` reads a search condition.  `OR` binds weaker than `AND`, that weaker
than `NOT`, that weaker than the tests of an operand (equality, `LIKE`, `IN`, `IS`,
`BETWEEN`, whose own `AND` belongs to it), and those weaker than the order of operands and
their arithmetic.  Operations of one level group to the left.

A reader takes something off the front of a list of tokens and leaves the rest, or fails
with the number of tokens left at the first one that cannot be there.  The number in front
bounds the nesting; `Expression.ofTokens` gives enough for every list of tokens.
-/

/-- What a reader gives: what it read and the tokens behind, or the number of tokens left
    where it failed. -/
abbrev Reading (α : Type) : Type := Except Nat (α × List Token)

/-- The failure at the first of some tokens. -/
def unexpected {α : Type} (ts : List Token) : Reading α := .error ts.length

/-- The level of negations. -/
def notLevel : Nat := 3

/-- The level of the tests of an operand. -/
def testLevel : Nat := 4

/-- The level of collations. -/
def collateLevel : Nat := 10

/-- The level of the signs before an operand. -/
def signLevel : Nat := 11

/-- The operation that a token stands for between two operands. -/
def Operation.ofToken? : Token → Option Operation
  | .keyword .and _ => some .and
  | .keyword .or _ => some .or
  | .sign s =>
    match s with
    | .equal => some .equal
    | .notEqual => some .notEqual
    | .less => some .less
    | .lessOrEqual => some .lessOrEqual
    | .greater => some .greater
    | .greaterOrEqual => some .greaterOrEqual
    | .join => some .join
    | .extract => some .extract
    | .extractText => some .extractText
    | .shiftLeft => some .shiftLeft
    | .shiftRight => some .shiftRight
    | .bitAnd => some .bitAnd
    | .bitOr => some .bitOr
    | .plus => some .plus
    | .minus => some .minus
    | .times => some .times
    | .divide => some .divide
    | .remainder => some .remainder
    | .complement => none
  | _ => none

/-- The operation of a keyword that tests a pattern. -/
def Operation.ofPatternKeyword? : Keyword → Option Operation
  | .like => some .like
  | .glob => some .glob
  | .regexp => some .regexp
  | .matching => some .matching
  | _ => none

/-- The modifier that a sign is before an operand. -/
def Modifier.ofSign? : Sign → Option Modifier
  | .plus => some .plus
  | .minus => some .minus
  | .complement => some .complement
  | _ => none

namespace Expression

/-- The constant of an integer; a floating-point number where it is too large. -/
def ofNat (n : Nat) : Expression :=
  .constant <| if (n : Int) ≤ Bounds.signed64.high then .integer n
    else .real (Binary64.ofRatio false n 1)

/-- Takes the further parts of a name off the front; a name has three parts at most. -/
def readPath (path : List String) (quoted double : Bool) : List Token → Reading Expression
  | .point :: t :: ts =>
    match t.partName? with
    | none => unexpected (t :: ts)
    | some second =>
      match ts with
      | .point :: u :: rest =>
        match u.partName? with
        | none => unexpected (u :: rest)
        | some third => .ok (.name (path ++ [second, third]) false false, rest)
      | [.point] => unexpected []
      | _ => .ok (.name (path ++ [second]) false false, ts)
  | [.point] => unexpected []
  | ts => .ok (.name path quoted double, ts)

/-- Takes the numbers behind the name of a type off the front, with the parenthesis. -/
def readTypeSize : List Token → Option (List Token)
  | .sign s :: ts => if s = .plus ∨ s = .minus then number ts else none
  | ts => number ts
where
  number : List Token → Option (List Token)
    | .integer _ :: ts => some ts
    | .real _ :: ts => some ts
    | _ => none

/-- Takes a type and the parenthesis behind it off the front. -/
def readType (name : List String) : List Token → Reading Conversion
  | .closing :: rest => .ok (.ofTypeName (" ".intercalate name), rest)
  | .opening :: ts =>
    if name.isEmpty then unexpected (.opening :: ts)
    else
      match readTypeSize ts with
      | none => unexpected ts
      | some (.closing :: .closing :: rest) => .ok (.ofTypeName (" ".intercalate name), rest)
      | some (.closing :: rest) => unexpected rest
      | some (.comma :: rest) =>
        match readTypeSize rest with
        | some (.closing :: .closing :: rest) => .ok (.ofTypeName (" ".intercalate name), rest)
        | some (.closing :: rest) => unexpected rest
        | some rest => unexpected rest
        | none => unexpected rest
      | some rest => unexpected rest
  | t :: ts =>
    match t.partName? with
    | some s => readType (name ++ [s]) ts
    | none => unexpected (t :: ts)
  | [] => unexpected []

/-- Whether a token begins a test of the operand before it. -/
def isTest : Token → Bool
  | .keyword k _ =>
    k ∈ [.not, .isNull, .notNull, .is, .like, .glob, .regexp, .matching, .among, .between]
  | _ => false

/-- Takes the words between `IS` and its right side off the front; says whether they
    negate. -/
def readIdentityWords : List Token → Reading Bool
  | .keyword .not _ :: .keyword .distinct _ :: .keyword .source _ :: rest => .ok (false, rest)
  | .keyword .not _ :: .keyword .distinct _ :: rest => unexpected rest
  | .keyword .distinct _ :: .keyword .source _ :: rest => .ok (true, rest)
  | .keyword .distinct _ :: rest => unexpected rest
  | .keyword .not _ :: rest => .ok (true, rest)
  | ts => .ok (false, ts)

/-- The test of an operand that `IS` and its right side make. -/
def identity (negated : Bool) (a : Expression) : Expression → Expression
  | .constant .null => .isNull a negated
  | b => .binary (if negated then .isNot else .is) a b

/-- The tokens behind a word that says which arguments count. -/
def dropArgumentWord : List Token → List Token
  | .keyword .distinct _ :: ts => ts
  | .keyword .all _ :: ts => ts
  | ts => ts

/-- Takes what follows `RAISE` off the front. -/
def readRaise : List Token → Reading Expression
  | .opening :: .name s :: .closing :: rest =>
    if Text.sameIgnoringCase s "IGNORE" then .ok (.raise, rest) else unexpected (.closing :: rest)
  | .opening :: .name _ :: .comma :: t :: .closing :: rest =>
    match t.partName? with
    | some _ => .ok (.raise, rest)
    | none => unexpected (t :: .closing :: rest)
  | .opening :: .name _ :: rest => unexpected rest
  | .opening :: rest => unexpected rest
  | ts => unexpected ts

mutual

/-- Takes an expression off the front whose operations have at least a level. -/
def read : Nat → Nat → List Token → Reading Expression
  | 0, _, ts => unexpected ts
  | n + 1, least, ts =>
    match readOperand n ts with
    | .error e => .error e
    | .ok (a, rest) => readFurther n least a rest

/-- Takes an operand off the front, with the signs and negations before it. -/
def readOperand : Nat → List Token → Reading Expression
  | 0, ts => unexpected ts
  | _, [] => unexpected []
  | n + 1, t :: ts =>
    match t with
    | .keyword .not _ =>
      match read n testLevel ts with
      | .error e => .error e
      | .ok (a, rest) => .ok (.modified .not a, rest)
    | .sign s =>
      match Modifier.ofSign? s, ts with
      | some .minus, .integer 9223372036854775808 :: rest =>
        .ok (.constant (.integer Bounds.signed64.low), rest)
      | some m, _ =>
        match read n signLevel ts with
        | .error e => .error e
        | .ok (a, rest) => .ok (.modified m a, rest)
      | none, _ => unexpected (t :: ts)
    | .opening =>
      match readItems n ts with
      | .error e => .error e
      | .ok ([a], rest) => .ok (a, rest)
      | .ok (items, rest) => .ok (.row items, rest)
    | .integer k => .ok (.ofNat k, ts)
    | .real x => .ok (.constant (.real x), ts)
    | .placeholder index => .ok (.placeholder (index.getD 0), ts)
    | .parameter word => .ok (.parameter word, ts)
    | .keyword .null _ => .ok (.constant .null, ts)
    | .keyword .moment _ => .ok (.moment, ts)
    | .keyword .cast _ =>
      match ts with
      | .opening :: ts =>
        match read n 0 ts with
        | .error e => .error e
        | .ok (a, .keyword .asType _ :: rest) =>
          match readType [] rest with
          | .error e => .error e
          | .ok (type, rest) => .ok (.cast a type, rest)
        | .ok (_, rest) => unexpected rest
      | _ => unexpected ts
    | .keyword .choice _ =>
      match ts with
      | .keyword .guard _ :: ts => readBranches n none ts
      | _ =>
        match read n 0 ts with
        | .error e => .error e
        | .ok (a, .keyword .guard _ :: rest) => readBranches n (some a) rest
        | .ok (_, rest) => unexpected rest
    | .keyword .presence _ =>
      match ts with
      | .opening :: rest => unexpected rest
      | _ => unexpected ts
    | .keyword .raise _ => readRaise ts
    | .text s =>
      match ts with
      | .point :: _ => readPath [s] false false ts
      | _ => .ok (.constant (.text s), ts)
    | _ =>
      match t.name? with
      | none => unexpected (t :: ts)
      | some word =>
        match ts with
        | .opening :: ts => readArguments n word ts
        | _ =>
          match t with
          | .quotedName _ double => readPath [word] true double ts
          | _ => readPath [word] false false ts

/-- Takes the operations behind an operand off the front. -/
def readFurther : Nat → Nat → Expression → List Token → Reading Expression
  | 0, _, _, ts => unexpected ts
  | _, _, a, [] => .ok (a, [])
  | n + 1, least, a, t :: ts =>
    if isTest t && testLevel < least then .ok (a, t :: ts)
    else
      match t with
      | .keyword .not _ =>
        match ts with
        | .keyword .null _ :: rest => readFurther n least (.isNull a true) rest
        | _ =>
          match readTest n a ts with
          | .error e => .error e
          | .ok (b, rest) => readFurther n least (.modified .not b) rest
      | .keyword .isNull _ => readFurther n least (.isNull a false) ts
      | .keyword .notNull _ => readFurther n least (.isNull a true) ts
      | .keyword .is _ =>
        match readIdentity n a ts with
        | .error e => .error e
        | .ok (b, rest) => readFurther n least b rest
      | .keyword .collate _ =>
        if collateLevel < least then .ok (a, t :: ts)
        else
          match ts with
          | [] => unexpected []
          | u :: rest =>
            match u.partName? with
            | none => unexpected ts
            | some collation => readFurther n least (.collate a collation) rest
      | _ =>
        if isTest t then
          match readTest n a (t :: ts) with
          | .error e => .error e
          | .ok (b, rest) => readFurther n least b rest
        else
          match Operation.ofToken? t with
          | none => .ok (a, t :: ts)
          | some op =>
            if op.level < least then .ok (a, t :: ts)
            else
              match read n (op.level + 1) ts with
              | .error e => .error e
              | .ok (b, rest) => readFurther n least (combine op a b) rest

/-- Takes a test of an operand off the front that may stand behind `NOT`: a pattern, a list
    or bounds. -/
def readTest : Nat → Expression → List Token → Reading Expression
  | 0, _, ts => unexpected ts
  | n + 1, a, .keyword .between _ :: ts =>
    match read n notLevel ts with
    | .error e => .error e
    | .ok (low, .keyword .and _ :: rest) =>
      match read n (testLevel + 1) rest with
      | .error e => .error e
      | .ok (high, rest) => .ok (.between a low high, rest)
    | .ok (low, rest) =>
      match readFurther n 0 low rest with
      | .error e => .error e
      | .ok (_, rest) => unexpected rest
  | n + 1, a, .keyword .among _ :: ts =>
    match ts with
    | .opening :: .closing :: rest => .ok (.among a [], rest)
    | .opening :: ts =>
      match readItems n ts with
      | .error e => .error e
      | .ok (items, rest) => .ok (.among a items, rest)
    | t :: rest =>
      match t.partName? with
      | some table => .ok (.amongRows a table, rest)
      | none => unexpected ts
    | [] => unexpected []
  | n + 1, a, .keyword k word :: ts =>
    match Operation.ofPatternKeyword? k with
    | none => unexpected (.keyword k word :: ts)
    | some op =>
      match read n (testLevel + 1) ts with
      | .error e => .error e
      | .ok (p, .keyword .escape _ :: rest) =>
        match read n (testLevel + 1) rest with
        | .error e => .error e
        | .ok (e, rest) => .ok (.escaped a p e, rest)
      | .ok (p, rest) => .ok (.binary op a p, rest)
  | _, _, ts => unexpected ts

/-- Takes what follows `IS` off the front. -/
def readIdentity : Nat → Expression → List Token → Reading Expression
  | 0, _, ts => unexpected ts
  | n + 1, a, ts =>
    match readIdentityWords ts with
    | .error e => .error e
    | .ok (negated, rest) =>
      match read n (testLevel + 1) rest with
      | .error e => .error e
      | .ok (b, rest) => .ok (identity negated a b, rest)

/-- Takes expressions with commas between them off the front, and the parenthesis behind. -/
def readItems : Nat → List Token → Reading (List Expression)
  | 0, ts => unexpected ts
  | n + 1, ts =>
    match read n 0 ts with
    | .error e => .error e
    | .ok (a, .comma :: rest) =>
      match readItems n rest with
      | .error e => .error e
      | .ok (items, rest) => .ok (a :: items, rest)
    | .ok (a, .closing :: rest) => .ok ([a], rest)
    | .ok (_, rest) => unexpected rest

/-- Takes the arguments of a function off the front, and the parenthesis behind. -/
def readArguments : Nat → String → List Token → Reading Expression
  | 0, _, ts => unexpected ts
  | _, function, .closing :: rest => .ok (.call function [], rest)
  | _, function, .sign .times :: .closing :: rest => .ok (.call function [], rest)
  | n + 1, function, ts =>
    match readItems n (dropArgumentWord ts) with
    | .error e => .error e
    | .ok (args, rest) => .ok (.call function args, rest)

/-- Takes the branches of a choice behind the first `WHEN` off the front.  With a base, a
    branch is taken where the base equals its guard. -/
def readBranches : Nat → Option Expression → List Token → Reading Expression
  | 0, _, ts => unexpected ts
  | n + 1, base, ts =>
    match readParts n base ts with
    | .error e => .error e
    | .ok (parts, rest) => .ok (.choice parts, rest)

/-- Takes guards and results off the front, up to the end of the choice. -/
def readParts : Nat → Option Expression → List Token → Reading (List Expression)
  | 0, _, ts => unexpected ts
  | n + 1, base, ts =>
    match read n 0 ts with
    | .error e => .error e
    | .ok (a, .keyword .result _ :: rest) =>
      let guard := match base with
        | some b => .binary .equal b a
        | none => a
      match read n 0 rest with
      | .error e => .error e
      | .ok (b, .keyword .guard _ :: rest) =>
        match readParts n base rest with
        | .error e => .error e
        | .ok (parts, rest) => .ok (guard :: b :: parts, rest)
      | .ok (b, .keyword .otherwise _ :: rest) =>
        match read n 0 rest with
        | .error e => .error e
        | .ok (c, .keyword .finish _ :: rest) => .ok ([guard, b, c], rest)
        | .ok (_, rest) => unexpected rest
      | .ok (b, .keyword .finish _ :: rest) => .ok ([guard, b], rest)
      | .ok (_, rest) => unexpected rest
    | .ok (_, rest) => unexpected rest

end

/-- The expression at the front of some tokens, and the tokens behind it. -/
def ofTokens (ts : List Token) : Reading Expression := read (4 * ts.length + 4) 0 ts

/-- The expression that a text spells, its placeholders numbered. -/
def ofText? (s : String) : Option Expression :=
  match ofTokens (Token.numbered 0 (Token.ofText s)) with
  | .ok (e, []) => some e
  | _ => none

end Expression

end FilterQuery.Search
