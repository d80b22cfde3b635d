namespace FilterQuery

/-!
# Three-valued truth

A condition on an absent value is neither true nor false.  `and` and `or` are the strong
connectives of Kleene: the result is unknown only where the known operands leave it open.
-/

/-- A truth value of a condition. -/
inductive Truth where
  | yes
  | no
  | unknown
  deriving DecidableEq, Repr

namespace Truth

/-- A known truth value. -/
def ofBool (b : Bool) : Truth := if b then .yes else .no

/-- A truth value that may be unknown. -/
def ofOption : Option Bool → Truth
  | some b => ofBool b
  | none => .unknown

/-- The negation. -/
def not : Truth → Truth
  | .yes => .no
  | .no => .yes
  | .unknown => .unknown

/-- The conjunction. -/
def and : Truth → Truth → Truth
  | .no, _ => .no
  | _, .no => .no
  | .yes, .yes => .yes
  | _, _ => .unknown

/-- The disjunction. -/
def or : Truth → Truth → Truth
  | .yes, _ => .yes
  | _, .yes => .yes
  | .no, .no => .no
  | _, _ => .unknown

/-- The conjunction of several truth values. -/
def all (ts : List Truth) : Truth := ts.foldr and .yes

/-- The disjunction of several truth values. -/
def any (ts : List Truth) : Truth := ts.foldr or .no

/-- The truth value, or its negation where negated. -/
def signed (negated : Bool) (t : Truth) : Truth := if negated then t.not else t

/-- Whether a condition with this truth value selects a row. -/
def isYes (t : Truth) : Bool := t = .yes

@[simp] theorem not_not (t : Truth) : t.not.not = t := by cases t <;> rfl

@[simp] theorem yes_and (t : Truth) : and .yes t = t := by cases t <;> rfl

@[simp] theorem and_yes (t : Truth) : and t .yes = t := by cases t <;> rfl

@[simp] theorem no_or (t : Truth) : or .no t = t := by cases t <;> rfl

@[simp] theorem or_no (t : Truth) : or t .no = t := by cases t <;> rfl

@[simp] theorem no_and (t : Truth) : and .no t = .no := by cases t <;> rfl

@[simp] theorem yes_or (t : Truth) : or .yes t = .yes := by cases t <;> rfl

theorem and_assoc (a b c : Truth) : and (and a b) c = and a (and b c) := by
  cases a <;> cases b <;> cases c <;> rfl

theorem or_assoc (a b c : Truth) : or (or a b) c = or a (or b c) := by
  cases a <;> cases b <;> cases c <;> rfl

theorem not_and (a b : Truth) : (and a b).not = or a.not b.not := by
  cases a <;> cases b <;> rfl

theorem not_or (a b : Truth) : (or a b).not = and a.not b.not := by
  cases a <;> cases b <;> rfl

@[simp] theorem all_nil : all [] = .yes := rfl

@[simp] theorem all_cons (t : Truth) (ts : List Truth) : all (t :: ts) = and t (all ts) := rfl

@[simp] theorem any_nil : any [] = .no := rfl

@[simp] theorem any_cons (t : Truth) (ts : List Truth) : any (t :: ts) = or t (any ts) := rfl

theorem all_append (ts us : List Truth) : all (ts ++ us) = and (all ts) (all us) := by
  induction ts with
  | nil => simp
  | cons t ts ih => simp [ih, and_assoc]

theorem any_append (ts us : List Truth) : any (ts ++ us) = or (any ts) (any us) := by
  induction ts with
  | nil => simp
  | cons t ts ih => simp [ih, or_assoc]

end Truth

end FilterQuery
