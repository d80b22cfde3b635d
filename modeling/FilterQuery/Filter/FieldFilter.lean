import FilterQuery.Filter.Kind

namespace FilterQuery

/-!
# The filter of one field

A `FieldFilter` holds the alternatives of one field, read by the field's kind of filter.
Its predicate holds where one of the alternatives does.  Numbers that are all compared
for equality, or all for inequality, are gathered in a list: being none of several
numbers is a conjunction there.
-/

namespace Alternative

/-- Reads the literal, unless the alternative asks for an absent value. -/
def parse {α : Type} (readLiteral : String → Except FilterError (Operator × α))
    (a : Alternative) : Except FilterError (Parsed α) :=
  if a.isNull then .ok ⟨a.operator, a.negated, none⟩
  else (readLiteral a.literal).map fun (op, v) => ⟨op, a.negated, some v⟩

/-- Reads the alternatives in order, up to the first error. -/
def parseAll {α : Type} (readLiteral : String → Except FilterError (Operator × α)) :
    List Alternative → Except FilterError (List (Parsed α))
  | [] => .ok []
  | a :: rest =>
    match parse readLiteral a with
    | .error e => .error e
    | .ok v => (parseAll readLiteral rest).map (v :: ·)

end Alternative

namespace Parsed

variable {α : Type}

/-- The predicate of one alternative.  An absent value is looked for in the plain column;
    a value is compared by `valuePredicate`. -/
def predicate (valuePredicate : Operator → Bool → α → Except FilterError Predicate)
    (column : String) (p : Parsed α) : Except FilterError Predicate :=
  match p.operator, p.value with
  | .null, _ => .ok (.test (.isNull (.column column) p.negated))
  | op, some v => valuePredicate op p.negated v
  | op, none => .error (.unsupported op)

/-- The predicates of alternatives, in order, up to the first error. -/
def predicates (valuePredicate : Operator → Bool → α → Except FilterError Predicate)
    (column : String) : List (Parsed α) → Except FilterError (List Predicate)
  | [] => .ok []
  | p :: rest =>
    match p.predicate valuePredicate column with
    | .error e => .error e
    | .ok q => (predicates valuePredicate column rest).map (q :: ·)

/-- The predicate that holds where one of the alternatives does. -/
def anyOf (valuePredicate : Operator → Bool → α → Except FilterError Predicate)
    (column : String) (ps : List (Parsed α)) : Except FilterError Predicate :=
  (predicates valuePredicate column ps).map Predicate.anyOf

/-- Membership in the list of the values, where all alternatives are equalities or all
    are inequalities. -/
def membership? (column : String) (ps : List (Parsed Int)) : Option Predicate :=
  match ps with
  | [] => none
  | p :: _ =>
    if ps.all fun q => q.operator = .equals && q.negated == p.negated then
      some (.test (.member (.column column) (ps.filterMap fun q => q.value.map Value.integer)
        p.negated))
    else none

end Parsed

/-- The alternatives of one field, read by a kind of filter. -/
structure FieldFilter where
  kind : FilterKind
  name : String
  values : List (Parsed kind.Operand)

namespace FieldFilter

/-- Reads the filter value of a field; a value without alternatives gives no filter. -/
def read (kind : FilterKind) (name : String) (raw : Option String) :
    Except FilterError (Option FieldFilter) :=
  match Alternative.split raw with
  | [] => .ok none
  | as => (Alternative.parseAll (kind.readLiteral name) as).map fun vs => some ⟨kind, name, vs⟩

/-- The number of alternatives. -/
def size (f : FieldFilter) : Nat := f.values.length

/-- The predicate of one alternative's value. -/
def valuePredicate (f : FieldFilter) (column : String) (op : Operator) (negated : Bool)
    (v : f.kind.Operand) : Except FilterError Predicate :=
  f.kind.valuePredicate (f.kind.subject column) op negated v

/-- Membership in a list, where the filter is one of numbers that allows it. -/
def membership? (column : String) : FieldFilter → Option Predicate
  | ⟨.number, _, values⟩ => Parsed.membership? column values
  | _ => none

/-- The predicate of the filter on a column. -/
def predicate (f : FieldFilter) (column : String) : Except FilterError Predicate :=
  match f.membership? column with
  | some p => .ok p
  | none => Parsed.anyOf (f.valuePredicate column) column f.values

end FieldFilter

end FilterQuery
