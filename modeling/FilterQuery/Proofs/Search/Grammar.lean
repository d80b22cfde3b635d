import FilterQuery.Search.Names
import FilterQuery.Search.Reader

namespace FilterQuery.Search.Grammar

/-!
# The grammar of conditions

The grammar that conditions of a statement are written in, without regard to how they are
read: `OR` joins what `AND` joins, `AND` joins what may stand behind `NOT`, and that is a
test of operands or a condition in parentheses.  The `AND` of `BETWEEN` belongs to it.

* `Operand`, `Test`, `Phrase` — the grammar, each phrase with the expression that it is;
* `Ends`, `readFurther_of_ends` — the tokens behind a phrase at which reading ends;
* `readOperand_text`, `readFurther_test` — single steps of the readers.
-/

open Expression

/-! ### Derivations -/

/-- Several phrases with commas between them. -/
def listed : List (List Token) → List Token
  | [] => []
  | [ts] => ts
  | ts :: us :: rest => ts ++ .comma :: listed (us :: rest)

theorem listed_cons_of_ne_nil (ts : List Token) {rest : List (List Token)} (h : rest ≠ []) :
    listed (ts :: rest) = ts ++ .comma :: listed rest := by
  cases rest with
  | nil => exact absurd rfl h
  | cons us rest => rfl

/-- Some tokens are an operand: a name, an integer, a placeholder, a call of a function, a
    conversion to a type, or an operand in parentheses. -/
inductive Operand : List Token → Expression → Prop
  | name (s : String) : Operand [.name s] (.name [s] false false)
  | integer (n : Nat) : Operand [.integer n] (.ofNat n)
  | placeholder (n : Nat) : Operand [.placeholder (some n)] (.placeholder n)
  | call (function : String) {parts : List (List Token × Expression)} (hne : parts ≠ [])
      (h : ∀ p ∈ parts, Operand p.1 p.2) :
      Operand (.name function :: .opening :: (listed (parts.map Prod.fst) ++ [.closing]))
        (.call function (parts.map Prod.snd))
  | cast {ts : List Token} {a : Expression} (cast as type : String) (h : Operand ts a) :
      Operand
        (.keyword .cast cast :: .opening :: (ts ++ [.keyword .asType as, .name type, .closing]))
        (.cast a (.ofTypeName type))
  | group {ts : List Token} {a : Expression} (h : Operand ts a) :
      Operand (.opening :: (ts ++ [.closing])) a

/-- Some tokens are the part behind its operand of a test that may be negated: a pattern,
    a list or bounds. -/
inductive Test : List Token → (Expression → Expression) → Prop
  | like {ts : List Token} {p : Expression} (like : String) (h : Operand ts p) :
      Test (.keyword .like like :: ts) fun a => .binary .like a p
  | among {parts : List (List Token × Expression)} (among : String) (hne : parts ≠ [])
      (h : ∀ p ∈ parts, Operand p.1 p.2) :
      Test (.keyword .among among :: .opening :: (listed (parts.map Prod.fst) ++ [.closing]))
        fun a => .among a (parts.map Prod.snd)
  | between {ts us : List Token} {low high : Expression} (between and : String)
      (hlow : Operand ts low) (hhigh : Operand us high) :
      Test (.keyword .between between :: (ts ++ .keyword .and and :: us))
        fun a => .between a low high

/-- How loosely the parts of a phrase are joined. -/
inductive Level where
  | choice
  | joint
  | factor
  deriving DecidableEq, Repr

/-- Some tokens are a condition: tests of operands joined by `NOT`, `AND` and `OR`. -/
inductive Phrase : Level → List Token → Expression → Prop
  | compare {ts us : List Token} {a b : Expression} {t : Token} {op : Operation}
      (ht : Operation.ofToken? t = some op) (hop : op.compares = true) (ha : Operand ts a)
      (hb : Operand us b) : Phrase .factor (ts ++ t :: us) (.binary op a b)
  | isNull {ts : List Token} {a : Expression} (is null : String) (ha : Operand ts a) :
      Phrase .factor (ts ++ [.keyword .is is, .keyword .null null]) (.isNull a false)
  | isNotNull {ts : List Token} {a : Expression} (is not null : String) (ha : Operand ts a) :
      Phrase .factor (ts ++ [.keyword .is is, .keyword .not not, .keyword .null null])
        (.isNull a true)
  | test {ts us : List Token} {a : Expression} {f : Expression → Expression} (ha : Operand ts a)
      (hf : Test us f) : Phrase .factor (ts ++ us) (f a)
  | testNot {ts us : List Token} {a : Expression} {f : Expression → Expression} (not : String)
      (ha : Operand ts a) (hf : Test us f) :
      Phrase .factor (ts ++ .keyword .not not :: us) (.modified .not (f a))
  | group {ts : List Token} {a : Expression} (h : Phrase .choice ts a) :
      Phrase .factor (.opening :: (ts ++ [.closing])) a
  | not {ts : List Token} {a : Expression} (not : String) (h : Phrase .factor ts a) :
      Phrase .factor (.keyword .not not :: ts) (.modified .not a)
  | ofFactor {ts : List Token} {a : Expression} (h : Phrase .factor ts a) : Phrase .joint ts a
  | and {ts us : List Token} {a b : Expression} (and : String) (ha : Phrase .joint ts a)
      (hb : Phrase .factor us b) : Phrase .joint (ts ++ .keyword .and and :: us) (.binary .and a b)
  | ofJoint {ts : List Token} {a : Expression} (h : Phrase .joint ts a) : Phrase .choice ts a
  | or {ts us : List Token} {a b : Expression} (or : String) (ha : Phrase .choice ts a)
      (hb : Phrase .joint us b) : Phrase .choice (ts ++ .keyword .or or :: us) (.binary .or a b)

/-! ### Ends of phrases -/

/-- The level from which on a token ends what is read before it: at once for a comma, a
    parenthesis and `AS`, and below its own level for `OR` and `AND`. -/
def endLevel? : Token → Option Nat
  | .closing | .comma | .keyword .asType _ => some 0
  | .keyword .or _ => some (Operation.or.level + 1)
  | .keyword .and _ => some (Operation.and.level + 1)
  | _ => none

/-- Tokens behind an expression that end it where operations of at least a level are read. -/
def Ends (least : Nat) (rest : List Token) : Prop :=
  ∀ t ∈ rest.head?, ∃ l, endLevel? t = some l ∧ l ≤ least

/-- Tokens behind a name that do not belong to it. -/
def EndsName (rest : List Token) : Prop := ∀ t ∈ rest.head?, t ≠ .opening ∧ t ≠ .point

theorem Ends.mono {k l : Nat} {rest : List Token} (h : Ends k rest) (hkl : k ≤ l) :
    Ends l rest := by
  intro t ht
  obtain ⟨j, hj, hjk⟩ := h t ht
  exact ⟨j, hj, Nat.le_trans hjk hkl⟩

theorem ends_nil (l : Nat) : Ends l [] := fun _ h => by cases h

theorem ends_cons {l k : Nat} {t : Token} (ht : endLevel? t = some k) (hk : k ≤ l)
    (rest : List Token) : Ends l (t :: rest) := by
  intro u hu
  obtain rfl : t = u := by simpa using hu
  exact ⟨k, ht, hk⟩

theorem Ends.endsName {l : Nat} {rest : List Token} (h : Ends l rest) : EndsName rest := by
  intro t ht
  obtain ⟨k, hk, _⟩ := h t ht
  constructor <;> (rintro rfl; cases hk)

theorem endsName_cons {t : Token} (hopening : t ≠ .opening) (hpoint : t ≠ .point)
    (rest : List Token) : EndsName (t :: rest) := by
  intro u hu
  obtain rfl : t = u := by simpa using hu
  exact ⟨hopening, hpoint⟩

/-- Nothing is read behind an expression that is ended. -/
theorem readFurther_of_ends {least : Nat} {rest : List Token} (h : Ends least rest) (n : Nat)
    (a : Expression) : readFurther (n + 1) least a rest = .ok (a, rest) := by
  cases rest with
  | nil => rfl
  | cons t rest =>
    obtain ⟨k, ht, hk⟩ := h t rfl
    cases t with
    | closing => rfl
    | comma => rfl
    | keyword w _ =>
      cases w with
      | asType => rfl
      | or =>
        obtain rfl := Option.some.inj ht
        exact if_pos hk
      | and =>
        obtain rfl := Option.some.inj ht
        exact if_pos hk
      | _ => cases ht
    | _ => cases ht

/-! ### Steps of the readers -/

section Steps

variable {n least : Nat} {a : Expression} {t : Token} {ts : List Token}

theorem readOperand_text (s : String) (hts : ∀ us, ts ≠ .point :: us) :
    readOperand (n + 1) (.text s :: ts) = .ok (.constant (.text s), ts) := by
  cases ts with
  | nil => rfl
  | cons t ts => cases t <;> first | rfl | exact absurd rfl (hts ts)

/-- A sign modifies the operand behind it, but for a minus before the least integer. -/
theorem readOperand_sign {s : Sign} {m : Modifier} (hs : Modifier.ofSign? s = some m)
    (hleast : ¬(s = .minus ∧ ∃ us, ts = .integer 9223372036854775808 :: us)) :
    readOperand (n + 1) (.sign s :: ts) =
      match Expression.read n signLevel ts with
      | .error e => .error e
      | .ok (a, rest) => .ok (.modified m a, rest) := by
  unfold readOperand
  dsimp only
  split
  · next rest heq =>
    refine absurd ⟨?_, rest, rfl⟩ hleast
    cases s <;> first | rfl | cases heq
  · next heq _ =>
    obtain rfl := Option.some.inj (hs.symm.trans heq)
    rfl
  · next heq => cases hs.symm.trans heq

/-- A choice without `WHEN` at its front has a base. -/
theorem readOperand_choice (w : String) (hts : ∀ w us, ts ≠ .keyword .guard w :: us) :
    readOperand (n + 1) (.keyword .choice w :: ts) =
      match Expression.read n 0 ts with
      | .error e => .error e
      | .ok (a, .keyword .guard _ :: rest) => readBranches n (some a) rest
      | .ok (_, rest) => unexpected rest := by
  cases ts with
  | nil => rfl
  | cons t ts =>
    cases t with
    | keyword k w => cases k <;> first | rfl | exact absurd rfl (hts _ _)
    | _ => rfl

/-- Arguments are items, unless there is none of them or an asterisk alone. -/
theorem readArguments_items (function : String) (hclosing : t ≠ .closing)
    (htimes : t = .sign .times → ∀ us, ts ≠ .closing :: us) :
    readArguments (n + 1) function (t :: ts) =
      match readItems n (dropArgumentWord (t :: ts)) with
      | .error e => .error e
      | .ok (args, rest) => .ok (.call function args, rest) := by
  cases t with
  | closing => exact absurd rfl hclosing
  | sign s =>
    cases s with
    | times =>
      have hts := htimes rfl
      cases ts with
      | nil => rfl
      | cons u us => cases u <;> first | rfl | exact absurd rfl (hts us)
    | _ => rfl
  | _ => rfl

theorem readTest_among (w : String) (ht : t ≠ .closing) :
    readTest (n + 1) a (.keyword .among w :: .opening :: t :: ts) =
      match readItems n (t :: ts) with
      | .error e => .error e
      | .ok (items, rest) => .ok (.among a items, rest) := by
  cases t <;> first | rfl | exact absurd rfl ht

theorem readTest_amongRows (w : String) (ht : t ≠ .opening) :
    readTest (n + 1) a (.keyword .among w :: t :: ts) =
      match t.partName? with
      | some table => .ok (.amongRows a table, ts)
      | none => unexpected (t :: ts) := by
  cases t <;> first | rfl | exact absurd rfl ht

/-- Behind the keyword of a pattern there may be an escape character. -/
theorem readTest_pattern {k : Keyword} {op : Operation}
    (hk : Operation.ofPatternKeyword? k = some op) (w : String) :
    readTest (n + 1) a (.keyword k w :: ts) =
      match Expression.read n (testLevel + 1) ts with
      | .error e => .error e
      | .ok (p, .keyword .escape _ :: rest) =>
        match Expression.read n (testLevel + 1) rest with
        | .error e => .error e
        | .ok (e, rest) => .ok (.escaped a p e, rest)
      | .ok (p, rest) => .ok (.binary op a p, rest) := by
  cases k <;> cases hk <;> rfl

/-- A pattern without an escape character behind it. -/
theorem readTest_plain {k : Keyword} {op : Operation}
    (hk : Operation.ofPatternKeyword? k = some op) {p : Expression} {rest : List Token}
    (hread : Expression.read n (testLevel + 1) ts = .ok (p, rest))
    (hescape : ∀ w us, rest ≠ .keyword .escape w :: us) (w : String) :
    readTest (n + 1) a (.keyword k w :: ts) = .ok (.binary op a p, rest) := by
  rw [readTest_pattern hk, hread]
  cases rest with
  | nil => rfl
  | cons t us =>
    cases t with
    | keyword k w => cases k <;> first | rfl | exact absurd rfl (hescape w us)
    | _ => rfl

/-- The keywords of tests that may be negated. -/
def testKeywords : List Keyword := [.like, .glob, .regexp, .matching, .among, .between]

/-- Behind an expression a test is read where its level is asked for. -/
theorem readFurther_test {k : Keyword} (hk : k ∈ testKeywords) (w : String) :
    readFurther (n + 1) least a (.keyword k w :: ts) =
      if isTest (.keyword k w) && testLevel < least then .ok (a, .keyword k w :: ts)
      else
        match readTest n a (.keyword k w :: ts) with
        | .error e => .error e
        | .ok (b, rest) => readFurther n least b rest := by
  cases k <;> first | rfl | exact absurd hk (by decide)

/-- Behind an expression an operation is read with the operand behind it. -/
theorem readFurther_operation {op : Operation} (ht : Operation.ofToken? t = some op)
    (ts : List Token) :
    readFurther (n + 1) least a (t :: ts) =
      if op.level < least then .ok (a, t :: ts)
      else
        match Expression.read n (op.level + 1) ts with
        | .error e => .error e
        | .ok (b, rest) => readFurther n least (combine op a b) rest := by
  cases t with
  | keyword w _ => cases w <;> cases ht <;> rfl
  | sign s => cases s <;> cases ht <;> rfl
  | _ => cases ht

/-- Behind an operand and `NOT` a test is read, unless that is `NOT NULL`. -/
theorem readFurther_not (ht : ∀ w, t ≠ .keyword .null w) (not : String)
    (ts : List Token) :
    readFurther (n + 1) least a (.keyword .not not :: t :: ts) =
      if isTest (.keyword .not not) && testLevel < least then .ok (a, .keyword .not not :: t :: ts)
      else
        match readTest n a (t :: ts) with
        | .error e => .error e
        | .ok (b, rest) => readFurther n least (.modified .not b) rest := by
  cases t with
  | keyword k w => cases k <;> first | rfl | exact absurd rfl (ht w)
  | _ => rfl

theorem readFurther_is (hleast : least ≤ testLevel) (is : String) (ts : List Token) :
    readFurther (n + 1) least a (.keyword .is is :: ts) =
      match readIdentity n a ts with
      | .error e => .error e
      | .ok (b, rest) => readFurther n least b rest :=
  if_neg (by simp [Nat.not_lt.mpr hleast])

end Steps

end FilterQuery.Search.Grammar
