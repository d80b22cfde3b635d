import FilterQuery.Search.Keyword
import FilterQuery.Sql.Cell

namespace FilterQuery.Search

/-!
# Tokens of a search condition

The text of a search condition is cut into lexemes, each as long as its kind allows: words,
numbers, quoted texts and names, signs, placeholders, blanks and comments.  A quotation or
a comment that is not closed goes on to the end of the text.

* `lexemes` — the pieces of a text; put together again they are the text;
* `Token.ofLexeme?` — what a piece means; blanks and comments mean nothing;
* `Token.ofText` — the tokens of a text;
* `Token.numbered` — the same tokens with a number for every placeholder.
-/

/-- The signs between and before operands. -/
inductive Sign where
  | equal
  | notEqual
  | less
  | lessOrEqual
  | greater
  | greaterOrEqual
  | join
  | extract
  | extractText
  | shiftLeft
  | shiftRight
  | bitAnd
  | bitOr
  | complement
  | plus
  | minus
  | times
  | divide
  | remainder
  deriving DecidableEq, Repr

/-- The smallest meaningful part of a text.  A keyword keeps its word, in case that it is a
    name. -/
inductive Token where
  | keyword (k : Keyword) (word : String)
  | name (s : String)
  | quotedName (s : String) (double : Bool)
  | text (s : String)
  | integer (n : Nat)
  | real (x : Binary64)
  | placeholder (index : Option Nat)
  | parameter (name : String)
  | sign (s : Sign)
  | comma
  | opening
  | closing
  | point
  | semicolon
  | illegal
  deriving DecidableEq

/-! ## Classes of characters -/

/-- A character of names, keywords and numbers.  Beyond ASCII every character is one. -/
def isWordChar (c : Char) : Bool := c.isAlphanum || c = '_' || c = '$' || 128 ≤ c.toNat

/-- A character that separates lexemes. -/
def isBlank (c : Char) : Bool := c ∈ [' ', '\t', '\n', '\r', '\x0c']

/-- The byte order mark, which is blank where it begins a lexeme. -/
def byteOrderMark : Char := '\uFEFF'

/-- A digit, or the line that may stand between two digits. -/
def isNumberChar (c : Char) : Bool := c.isDigit || c = '_'

/-- A hexadecimal digit, or the line between two digits. -/
def isHexChar (c : Char) : Bool := (hexValue? c).isSome || c = '_'

/-! ## Lexemes -/

/-- The length of what a quotation holds, with the quote at its end; a doubled quote is
    part of it. -/
def quotationLength (quote : Char) : List Char → Nat
  | [] => 0
  | [_] => 1
  | c :: d :: cs =>
    if c = quote then (if d = quote then 2 + quotationLength quote cs else 1)
    else 1 + quotationLength quote (d :: cs)

/-- The length of a comment behind its opening signs, with the closing ones. -/
def commentLength : List Char → Nat
  | [] => 0
  | [_] => 1
  | c :: d :: cs => if c = '*' ∧ d = '/' then 2 else 1 + commentLength (d :: cs)

/-- The length of a run of characters of a class. -/
def runLength (p : Char → Bool) (cs : List Char) : Nat := (cs.takeWhile p).length

/-- The length of the power of ten of a number; none where no digit follows. -/
def powerLength : List Char → Nat
  | e :: s :: d :: cs =>
    if e ≠ 'e' ∧ e ≠ 'E' then 0
    else if s.isDigit then 2 + runLength isNumberChar (d :: cs)
    else if (s = '+' ∨ s = '-') ∧ d.isDigit then 3 + runLength isNumberChar cs
    else 0
  | [e, d] => if (e = 'e' ∨ e = 'E') ∧ d.isDigit then 2 else 0
  | _ => 0

/-- The length of the digits, the point and the power of ten of a number. -/
def decimalLength (cs : List Char) : Nat :=
  let whole := runLength isNumberChar cs
  let places := match cs.drop whole with
    | '.' :: rest => 1 + runLength isNumberChar rest
    | _ => 0
  whole + places + powerLength (cs.drop (whole + places))

/-- The length of a number with the word characters behind it, which spoil it. -/
def numberLength (cs : List Char) : Nat :=
  let n := match cs with
    | '0' :: x :: d :: rest =>
      if (x = 'x' ∨ x = 'X') ∧ (hexValue? d).isSome then 3 + runLength isHexChar rest
      else decimalLength cs
    | _ => decimalLength cs
  n + runLength isWordChar (cs.drop n)

/-- The length of a blob behind its letter and quote: hexadecimal digits and a quote.
    Where something else follows, it reaches to the next quote. -/
def blobLength (cs : List Char) : Nat :=
  let inner := runLength (fun c => c ≠ '\'') cs
  if inner < cs.length then inner + 1 else inner

/-- The length of the lexeme that begins with a character. -/
def lexemeLength (c : Char) (cs : List Char) : Nat :=
  if c ∈ ['\'', '"', Char.ofNat 96] then 1 + quotationLength c cs
  else if c = '[' then
    let inner := runLength (fun d => d ≠ ']') cs
    if inner < cs.length then inner + 2 else inner + 1
  else if c = '?' then 1 + runLength Char.isDigit cs
  else if c ∈ ['$', '@', ':', '#'] then 1 + runLength isWordChar cs
  else if c.isDigit then numberLength (c :: cs)
  else if c = byteOrderMark then 1
  else
    match c, cs with
    | '-', '-' :: rest => 2 + runLength (fun d => d ≠ '\n') rest
    | '-', '>' :: '>' :: _ => 3
    | '-', '>' :: _ => 2
    | '/', '*' :: d :: rest => 2 + commentLength (d :: rest)
    | '<', d :: _ => if d ∈ ['=', '>', '<'] then 2 else 1
    | '>', d :: _ => if d ∈ ['=', '>'] then 2 else 1
    | '=', '=' :: _ => 2
    | '!', '=' :: _ => 2
    | '|', '|' :: _ => 2
    | '.', d :: _ => if d.isDigit then numberLength (c :: cs) else 1
    | 'x', '\'' :: rest => 2 + blobLength rest
    | 'X', '\'' :: rest => 2 + blobLength rest
    | _, _ => if isWordChar c then 1 + runLength isWordChar cs else 1

/-- Cuts a text into lexemes, in so many steps at most. -/
def lexemesWithin : Nat → List Char → List (List Char)
  | 0, _ => []
  | _, [] => []
  | n + 1, c :: cs =>
    let k := lexemeLength c cs
    (c :: cs.take (k - 1)) :: lexemesWithin n (cs.drop (k - 1))

/-- The lexemes of a text. -/
def lexemes (cs : List Char) : List (List Char) := lexemesWithin cs.length cs

/-! ## The meaning of lexemes -/

/-- The sign that a lexeme is. -/
def Sign.ofLexeme? : List Char → Option Sign
  | ['='] => some .equal
  | ['=', '='] => some .equal
  | ['<', '>'] => some .notEqual
  | ['!', '='] => some .notEqual
  | ['<'] => some .less
  | ['<', '='] => some .lessOrEqual
  | ['>'] => some .greater
  | ['>', '='] => some .greaterOrEqual
  | ['|', '|'] => some .join
  | ['-', '>'] => some .extract
  | ['-', '>', '>'] => some .extractText
  | ['<', '<'] => some .shiftLeft
  | ['>', '>'] => some .shiftRight
  | ['&'] => some .bitAnd
  | ['|'] => some .bitOr
  | ['~'] => some .complement
  | ['+'] => some .plus
  | ['-'] => some .minus
  | ['*'] => some .times
  | ['/'] => some .divide
  | ['%'] => some .remainder
  | _ => none

/-- What stands in quotes, if the quotation is closed. -/
def unquoted? (quote : Char) : List Char → Option (List Char)
  | [] => none
  | [c] => if c = quote then some [] else none
  | c :: d :: cs =>
    if c = quote then (if d = quote then (unquoted? quote cs).map (quote :: ·) else none)
    else (unquoted? quote (d :: cs)).map (c :: ·)

/-- The number that a run of digits stands for. -/
def numeral? (digits : List Char) : Option Nat :=
  if digits ≠ [] ∧ digits.all Char.isDigit then
    some (digits.foldl (fun n c => 10 * n + (c.toNat - '0'.toNat)) 0)
  else none

/-- The characters without the lines between two of a class; none where a line stands
    elsewhere. -/
def joinedDigits? (p : Char → Bool) : List Char → Option (List Char)
  | [] => some []
  | [c] => if c = '_' then none else some [c]
  | c :: '_' :: d :: cs =>
    if p c && p d then (joinedDigits? p (d :: cs)).map (c :: ·) else none
  | c :: cs => if c = '_' then none else (joinedDigits? p cs).map (c :: ·)

/-- The token of a number. -/
def numberToken (cs : List Char) : Token :=
  match cs with
  | '0' :: x :: digits =>
    if x = 'x' ∨ x = 'X' then
      match (joinedDigits? (fun c => (hexValue? c).isSome) digits).bind (·.mapM hexValue?) with
      | some (d :: ds) => .integer ((d :: ds).foldl (fun n d => 16 * n + d) 0)
      | _ => .illegal
    else decimalToken cs
  | _ => decimalToken cs
where
  decimalToken (cs : List Char) : Token :=
    match joinedDigits? Char.isDigit cs with
    | none => .illegal
    | some cs =>
      match numeral? cs, Binary64.decimal? false cs with
      | some n, _ => .integer n
      | none, some d => .real (Extended.ofDecimal d)
      | none, none => .illegal

/-- The token of a blob: the text that its bytes spell. -/
def blobToken (cs : List Char) : Token :=
  match cs.getLast?, cs.dropLast.mapM hexValue? with
  | some '\'', some digits =>
    if digits.length % 2 = 0 then .text (String.ofList (bytes digits)) else .illegal
  | _, _ => .illegal
where
  bytes : List Nat → List Char
    | a :: b :: rest => Char.ofNat (16 * a + b) :: bytes rest
    | _ => []

/-- The token of a word. -/
def wordToken (word : List Char) : Token :=
  match Keyword.ofWord? (String.ofList word) with
  | some k => .keyword k (String.ofList word)
  | none => .name (String.ofList word)

/-- The token of a lexeme; blanks and comments have none. -/
def Token.ofLexeme? (lexeme : List Char) : Option Token :=
  match lexeme with
  | [] => none
  | [','] => some .comma
  | ['('] => some .opening
  | [')'] => some .closing
  | ['.'] => some .point
  | [';'] => some .semicolon
  | ['?'] => some (.placeholder none)
  | '-' :: '-' :: _ => none
  | '/' :: '*' :: _ => none
  | '?' :: digits => some (.placeholder (numeral? digits))
  | '\'' :: cs => some (((unquoted? '\'' cs).map fun s => .text (String.ofList s)).getD .illegal)
  | '"' :: cs =>
    some (((unquoted? '"' cs).map fun s => .quotedName (String.ofList s) true).getD .illegal)
  | '[' :: cs =>
    some (if cs.getLast? = some ']' then .quotedName (String.ofList cs.dropLast) false
      else .illegal)
  | 'x' :: '\'' :: cs => some (blobToken cs)
  | 'X' :: '\'' :: cs => some (blobToken cs)
  | '.' :: cs => some (numberToken ('.' :: cs))
  | c :: cs =>
    if isBlank c || (c = byteOrderMark && cs.isEmpty) then none
    else if c = Char.ofNat 96 then
      some (((unquoted? c cs).map fun s => .quotedName (String.ofList s) false).getD .illegal)
    else if c ∈ ['$', '@', ':', '#'] then
      some (if cs.isEmpty then .illegal
        else if c = '#' && (cs.headD ' ').isDigit then .keyword .reserved (String.ofList lexeme)
        else
          match decide (c = '$'), numeral? cs with
          | true, some n => .placeholder (some n)
          | _, _ => .parameter (String.ofList lexeme))
    else if c.isDigit then some (numberToken lexeme)
    else
      match Sign.ofLexeme? lexeme with
      | some s => some (.sign s)
      | none => some (if isWordChar c then wordToken lexeme else .illegal)

namespace Token

/-- The tokens of a text, each with the text that it stands for. -/
def spelled (cs : List Char) : List (Token × String) :=
  (lexemes cs).filterMap fun lexeme => (ofLexeme? lexeme).map (·, String.ofList lexeme)

/-- The tokens of a text. -/
def ofText (s : String) : List Token := (spelled s.toList).map Prod.fst

/-- The tokens with a number for each placeholder: one without counts on from the largest
    number before it. -/
def numbered (largest : Nat) : List Token → List Token
  | [] => []
  | .placeholder none :: ts => .placeholder (some (largest + 1)) :: numbered (largest + 1) ts
  | .placeholder (some n) :: ts => .placeholder (some n) :: numbered (max largest n) ts
  | t :: ts => t :: numbered largest ts

/-- The numbers of the placeholders, from left to right. -/
def placeholders (ts : List Token) : List (Option Nat) :=
  ts.filterMap fun t => match t with
    | .placeholder index => some index
    | _ => none

/-- The name that a token is where an operand is wanted. -/
def name? : Token → Option String
  | .name s => some s
  | .quotedName s _ => some s
  | .keyword k word => if k.isName then some word else none
  | _ => none

/-- The name that a token is behind a point. -/
def partName? : Token → Option String
  | .text s => some s
  | .keyword k word => if k.isPartName then some word else none
  | t => t.name?

end Token

/-- Whether a text is a plain name: word characters that begin with no digit and no dollar
    sign, and neither a keyword nor a truth value. -/
def isName (s : String) : Bool :=
  match s.toList with
  | [] => false
  | c :: cs =>
    !c.isDigit && c ≠ '$' && c ≠ byteOrderMark && (c :: cs).all isWordChar
      && (Keyword.ofWord? s).isNone
      && !Text.sameIgnoringCase s "TRUE" && !Text.sameIgnoringCase s "FALSE"

end FilterQuery.Search
