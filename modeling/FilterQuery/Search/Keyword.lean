import FilterQuery.Text.Ascii

namespace FilterQuery.Search

/-!
# Keywords

A search condition has words with a meaning of their own, in any ASCII case.  Some of them
are names wherever their meaning is not asked for (`Keyword.isName`), and a few more are
names behind a point (`Keyword.isPartName`).
-/

/-- The words with a meaning of their own.  `reserved` are those that have no place in a
    condition. -/
inductive Keyword where
  | and
  | or
  | not
  | is
  | null
  | isNull
  | notNull
  | like
  | glob
  | regexp
  | matching
  | escape
  | among
  | between
  | collate
  | distinct
  | all
  | source
  | cast
  | asType
  | choice
  | guard
  | result
  | otherwise
  | finish
  | presence
  | moment
  | raise
  | reserved
  deriving DecidableEq, Repr

namespace Keyword

/-- The words of a condition. -/
def words : List (String × Keyword) := [("AND", .and), ("OR", .or), ("NOT", .not), ("IS", .is),
  ("NULL", .null), ("ISNULL", .isNull), ("NOTNULL", .notNull), ("LIKE", .like), ("GLOB", .glob),
  ("REGEXP", .regexp), ("MATCH", .matching), ("ESCAPE", .escape), ("IN", .among),
  ("BETWEEN", .between), ("COLLATE", .collate), ("DISTINCT", .distinct), ("ALL", .all),
  ("FROM", .source), ("CAST", .cast), ("AS", .asType), ("CASE", .choice), ("WHEN", .guard),
  ("THEN", .result), ("ELSE", .otherwise), ("END", .finish), ("EXISTS", .presence),
  ("CURRENT_DATE", .moment), ("CURRENT_TIME", .moment), ("CURRENT_TIMESTAMP", .moment),
  ("RAISE", .raise)]

/-- The words of other parts of a statement that can be no names. -/
def reservedWords : List String := ["ADD", "ALTER", "AUTOINCREMENT", "CHECK", "COMMIT",
  "CONSTRAINT", "CREATE", "DEFAULT", "DEFERRABLE", "DELETE", "DROP", "EXCEPT", "FOREIGN", "GROUP",
  "HAVING", "INDEX", "INSERT", "INTERSECT", "INTO", "JOIN", "LIMIT", "NOTHING", "ON", "ORDER",
  "PRIMARY", "REFERENCES", "RETURNING", "SELECT", "SET", "TABLE", "TO", "TRANSACTION", "UNION",
  "UNIQUE", "UPDATE", "USING", "VALUES", "WHERE"]

/-- The keyword that a word is. -/
def ofWord? (word : String) : Option Keyword :=
  match words.find? fun p => Text.sameIgnoringCase p.1 word with
  | some (_, k) => some k
  | none =>
    if reservedWords.any fun w => Text.sameIgnoringCase w word then some .reserved else none

/-- Whether a keyword is a name where an operand is wanted. -/
def isName : Keyword → Bool
  | .like | .glob | .regexp | .matching | .finish => true
  | _ => false

/-- Whether a keyword is a name behind a point. -/
def isPartName : Keyword → Bool
  | .cast | .moment | .raise => true
  | k => k.isName

/-- Every keyword is found under its word. -/
theorem ofWord?_words : ∀ p ∈ words, ofWord? p.1 = some p.2 := by decide +kernel

end Keyword

end FilterQuery.Search
