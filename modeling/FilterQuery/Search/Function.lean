import FilterQuery.Search.Arithmetic
import FilterQuery.Search.Wildcard

namespace FilterQuery.Search

/-!
# Functions

A search condition may use the functions of the database, in any ASCII case.  A scalar
function has a value for each row; an aggregate or a window has one for many rows, and so
no place in a condition.

* `Function.find` — the function that a name and a number of arguments call;
* `Function.value` — the value of a scalar function on its arguments.
-/

/-- What a function looks at. -/
inductive FunctionKind where
  | scalar
  | aggregate
  | window
  deriving DecidableEq, Repr

/-- What the name of a function with a number of arguments calls. -/
inductive Function.Call where
  | found (kind : FunctionKind)
  | wrongCount
  | unknown
  deriving DecidableEq, Repr

namespace Function

/-- The functions by kind and number of arguments: from a least number to a largest one,
    where there is one. -/
def table : List (FunctionKind × Nat × Option Nat × List String) := [
  (.scalar, 0, some 0, ["changes", "fts5_source_id", "last_insert_rowid", "random",
    "sqlite_source_id", "sqlite_version", "total_changes"]),
  (.scalar, 1, some 1, ["abs", "fts5", "hex", "json", "json_error_position", "json_quote",
    "jsonb", "length", "likely", "lower", "octet_length", "offsets", "optimize", "quote",
    "randomblob", "rtreedepth", "sign", "soundex", "sqlite_compileoption_get",
    "sqlite_compileoption_used", "subtype", "typeof", "unicode", "unlikely", "upper",
    "zeroblob"]),
  (.scalar, 1, some 2, ["fts3_tokenizer", "json_array_length", "json_pretty", "json_type",
    "json_valid", "load_extension", "ltrim", "matchinfo", "round", "rtrim", "trim", "unhex"]),
  (.scalar, 2, some 2, ["->", "->>", "glob", "ifnull", "instr", "json_patch", "jsonb_patch",
    "likelihood", "match", "nullif", "rtreenode", "sqlite_log", "timediff"]),
  (.scalar, 2, some 3, ["like", "substr", "substring"]),
  (.scalar, 3, some 3, ["iif", "replace"]),
  (.scalar, 0, none, ["bm25", "char", "date", "datetime", "format", "highlight", "json_array",
    "json_extract", "json_insert", "json_object", "json_remove", "json_replace", "json_set",
    "jsonb_array", "jsonb_extract", "jsonb_insert", "jsonb_object", "jsonb_remove",
    "jsonb_replace", "jsonb_set", "julianday", "printf", "rtreecheck", "snippet", "strftime",
    "time", "unixepoch"]),
  (.scalar, 1, none, ["concat"]),
  (.scalar, 2, none, ["coalesce", "concat_ws", "max", "min"]),
  (.aggregate, 0, some 1, ["count"]),
  (.aggregate, 1, some 1, ["avg", "json_group_array", "jsonb_group_array", "max", "min", "sum",
    "total"]),
  (.aggregate, 1, some 2, ["group_concat"]),
  (.aggregate, 2, some 2, ["json_group_object", "jsonb_group_object", "string_agg"]),
  (.window, 0, some 0, ["cume_dist", "dense_rank", "percent_rank", "rank", "row_number"]),
  (.window, 1, some 1, ["first_value", "last_value", "ntile"]),
  (.window, 1, some 3, ["lag", "lead"]),
  (.window, 2, some 2, ["nth_value"])]

/-- The entries of a name. -/
def entries (name : String) : List (FunctionKind × Nat × Option Nat × List String) :=
  table.filter fun (_, _, _, names) => names.any fun n => Text.sameIgnoringCase n name

/-- Whether an entry takes a number of arguments. -/
def takes (count : Nat) : FunctionKind × Nat × Option Nat × List String → Bool
  | (_, least, most, _) => least ≤ count && (most.all fun most => count ≤ most)

/-- What a name with a number of arguments calls. -/
def find (name : String) (count : Nat) : Call :=
  match entries name with
  | [] => .unknown
  | es =>
    match es.find? (takes count) with
    | some (kind, _) => .found kind
    | none => .wrongCount

/-- Whether a name with a number of arguments calls an aggregate. -/
def isAggregate (name : String) (count : Nat) : Bool := find name count = .found .aggregate

/-! ## Values of scalar functions -/

/-- The part of a text from a place on, of a length.  Places count from one, or from the
    end where they are negative; a negative length takes what comes before the place. -/
def part (cs : List Char) (place length : Int) : List Char :=
  let (start, length) : Int × Int :=
    if place < 0 then
      let start := place + cs.length
      if start < 0 then (0, if length < 0 then 0 else length + start) else (start, length)
    else if 0 < place then (place - 1, length)
    else (0, if 0 < length then length - 1 else length)
  let (start, length) : Int × Int :=
    if length < 0 then
      let taken := if length < -start then start else -length
      (start - taken, taken)
    else (start, length)
  (cs.drop start.toNat).take length.toNat

/-- The place of a text in another one, counted from one; zero where it is not there. -/
def placeOf (part : List Char) : List Char → Nat
  | [] => if part.isEmpty then 1 else 0
  | c :: cs =>
    if part.isPrefixOf (c :: cs) then 1
    else
      match placeOf part cs with
      | 0 => 0
      | n + 1 => n + 2

/-- The text with another one for each occurrence of a part, which is not empty, in so
    many steps at most. -/
def replaced (part new : List Char) : Nat → List Char → List Char
  | 0, cs => cs
  | _, [] => []
  | n + 1, c :: cs =>
    if part.isPrefixOf (c :: cs) then new ++ replaced part new n ((c :: cs).drop part.length)
    else c :: replaced part new n cs

/-- The text without the characters of a set at its start. -/
def trimmedStart (set cs : List Char) : List Char := cs.dropWhile fun c => c ∈ set

/-- The text without the characters of a set at its end. -/
def trimmedEnd (set cs : List Char) : List Char := (trimmedStart set cs.reverse).reverse

/-- A value as it is written in a search condition. -/
def written (c : Cell) : Cell :=
  match c with
  | .null => .text "NULL"
  | .text s =>
    let cs := s.toList.takeWhile fun c => decide (c ≠ Char.ofNat 0)
    .text (String.ofList ('\'' :: replaced ['\''] ['\'', '\''] cs.length cs ++ ['\'']))
  | c => c.toText

/-- The bytes of a text in hexadecimal. -/
def hexadecimal (s : String) : String :=
  String.ofList <| s.toUTF8.toList.flatMap fun b =>
    let cs := (Nat.toDigits 16 b.toNat).map Char.toUpper
    List.replicate (2 - cs.length) '0' ++ cs

/-- The name of the kind of a value. -/
def kindName : Cell → String
  | .null => "null"
  | .integer _ => "integer"
  | .real _ => "real"
  | .text _ => "text"

/-- The magnitude of a value; that of a text is a floating-point number. -/
def magnitude : Cell → Cell
  | .integer n => .integer n.natAbs
  | c =>
    match c.real? with
    | some (.finite _ m e) => .real (.finite false m e)
    | some (.infinite _) => .real (.infinite false)
    | _ => .null

/-- The sign of a value that is or looks like a number. -/
def signOf (c : Cell) : Cell :=
  match c.toNumeric with
  | .integer n => .integer n.sign
  | .real x =>
    match x.compareInt 0 with
    | some .lt => .integer (-1)
    | some .gt => .integer 1
    | _ => .integer 0
  | _ => .null

/-- The number of characters of a text before its first null character. -/
def lengthOf (s : String) : Nat := (s.toList.takeWhile fun c => decide (c ≠ Char.ofNat 0)).length

/-- The value that comes first or last of several; absent where one of them is. -/
def extreme (better : Ordering) : List Cell → Cell
  | [] => .null
  | c :: cs =>
    if .null ∈ c :: cs then .null
    else cs.foldl (fun best d => if d.order best = better then d else best) c

/-- The value of a function of a text; absent for an absent value. -/
def ofText (f : String → Cell) (c : Cell) : Cell := (c.text?.map f).getD .null

/-- The value of a function of two texts. -/
def ofTexts (f : List Char → List Char → Cell) (a b : Cell) : Cell :=
  match a.text?, b.text? with
  | some s, some t => f s.toList t.toList
  | _, _ => .null

/-- The text of characters. -/
def textOf (cs : List Char) : Cell := .text (String.ofList cs)

/-- The value of a scalar function on its arguments, by its name in lower case.  What
    depends on more than the arguments is absent. -/
def valueOf : String → List Cell → Cell
  | "upper", [a] => a.toUpper
  | "lower", [a] => ofText (fun s => .text (Text.lower s)) a
  | "length", [a] => ofText (fun s => .integer (lengthOf s)) a
  | "octet_length", [a] => ofText (fun s => .integer s.utf8ByteSize) a
  | "typeof", [a] => .text (kindName a)
  | "abs", [a] => magnitude a
  | "sign", [a] => signOf a
  | "likely", [a] => a
  | "unlikely", [a] => a
  | "likelihood", [a, _] => a
  | "quote", [a] => written a
  | "hex", [a] => .text (hexadecimal (a.text?.getD ""))
  | "unicode", [a] => ofText (fun s => (s.toList.head?.map fun c => Cell.integer c.toNat).getD .null) a
  | "char", as => textOf (as.map fun a => Char.ofNat ((a.whole?.getD 0).toNat))
  | "coalesce", as => (as.find? fun a => decide (a ≠ .null)).getD .null
  | "ifnull", [a, b] => if a = .null then b else a
  | "nullif", [a, b] => if a.order b = .eq then .null else a
  | "iif", [a, b, c] => if a.truth = .yes then b else c
  | "min", as => extreme .lt as
  | "max", as => extreme .gt as
  | "trim", [a] => ofText (fun s => textOf (trimmedEnd [' '] (trimmedStart [' '] s.toList))) a
  | "trim", [a, b] => ofTexts (fun s set => textOf (trimmedEnd set (trimmedStart set s))) a b
  | "ltrim", [a] => ofText (fun s => textOf (trimmedStart [' '] s.toList)) a
  | "ltrim", [a, b] => ofTexts (fun s set => textOf (trimmedStart set s)) a b
  | "rtrim", [a] => ofText (fun s => textOf (trimmedEnd [' '] s.toList)) a
  | "rtrim", [a, b] => ofTexts (fun s set => textOf (trimmedEnd set s)) a b
  | "instr", [a, b] => ofTexts (fun s t => .integer (placeOf t s)) a b
  | "replace", [a, b, c] =>
    match b.text?, c.text? with
    | some part, some new =>
      ofText (fun s =>
        if part.isEmpty then .text s
        else textOf (replaced part.toList new.toList s.length s.toList)) a
    | some part, none => if part.isEmpty then a.toText else .null
    | none, _ => .null
  | "substr", [a, b] =>
    match b.whole? with
    | some place =>
      ofText (fun s => textOf (part s.toList place (s.length + place.natAbs + 1))) a
    | none => .null
  | "substr", [a, b, c] =>
    match b.whole?, c.whole? with
    | some place, some length => ofText (fun s => textOf (part s.toList place length)) a
    | _, _ => .null
  | "concat", as => .text (String.join (as.filterMap Cell.text?))
  | "concat_ws", a :: as => ofText (fun s => .text (s.intercalate (as.filterMap Cell.text?))) a
  | "like", [a, b] =>
    ofTexts (fun p s => .integer (Pattern.matches? (String.ofList p) (String.ofList s)).toNat) a b
  | "like", [a, b, c] =>
    match c.text?.map String.toList with
    | some [escape] =>
      ofTexts (fun p s =>
        .integer (matchesEscaped escape (String.ofList p) (String.ofList s)).toNat) a b
    | _ => .null
  | "glob", [a, b] =>
    ofTexts (fun p s => .integer (matchesStarred (String.ofList p) (String.ofList s)).toNat) a b
  | _, _ => .null

/-- The name that a function with several names has in `valueOf`. -/
def mainName (name : String) : String := if name = "substring" then "substr" else name

/-- The value of a scalar function on its arguments. -/
def value (name : String) (args : List Cell) : Cell := valueOf (mainName (Text.lower name)) args

end Function

end FilterQuery.Search
