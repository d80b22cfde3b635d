import FilterQuery.Filter.Error

namespace FilterQuery

/-!
# Closed enumerations

An enumeration has labels, which declare its members, and a name for each, under which
the member is stored and filtered.  Names are matched exactly.
-/

/-- A member of an enumeration. -/
structure Member where
  label : String
  name : String
  deriving DecidableEq, Repr

/-- A closed list of members. -/
structure Enumeration where
  typeName : String
  members : List Member
  deriving DecidableEq, Repr

namespace Enumeration

/-- The names of the members, in order. -/
def names (e : Enumeration) : List String := e.members.map Member.name

/-- The member with the given name; the first of several. -/
def ofName? (e : Enumeration) (name : String) : Option Member :=
  e.members.find? fun m => m.name == name

/-- The name that a literal gives, or the error for the field it was meant for. -/
def read (e : Enumeration) (field literal : String) : Except FilterError String :=
  if literal ∈ e.names then .ok literal else .error (.invalidMember field e.typeName literal)

theorem ofName?_isSome_iff (e : Enumeration) (name : String) :
    (e.ofName? name).isSome ↔ name ∈ e.names := by
  simp [ofName?, names]

end Enumeration

end FilterQuery
