import FilterQuery.Filter.Category
import FilterQuery.Filter.Enumeration

namespace FilterQuery

/-!
# Filterable fields

A `Field` is what a client can filter on: a key, the column behind it, a category, and the
type of the values.  `Field.distinct` keeps the first field of each key, and a `Registry`
lists the enumerations whose values are read strictly, whatever the category of the field.
-/

/-- The type of the values of a field. -/
inductive ValueType where
  | text
  | integer
  | boolean
  | identifier
  | timestamp
  | enumeration (e : Enumeration)
  deriving DecidableEq, Repr

/-- A field that a client can filter on. -/
structure Field where
  key : String
  column : String
  category : Category
  type : ValueType
  deriving DecidableEq, Repr

namespace Field

/-- The fields whose key is not among those already seen, first come first served. -/
def distinctFrom (seen : List String) : List Field → List Field
  | [] => []
  | f :: fs =>
    if f.key ∈ seen then distinctFrom seen fs else f :: distinctFrom (f.key :: seen) fs

/-- The first field of each key, in order. -/
def distinct (fs : List Field) : List Field := distinctFrom [] fs

/-- The field with the given key. -/
def withKey? (fs : List Field) (key : String) : Option Field := fs.find? fun f => f.key == key

end Field

/-- The enumerations that are read strictly. -/
structure Registry where
  entries : List Enumeration

namespace Registry

/-- The registry without enumerations. -/
def empty : Registry := ⟨[]⟩

/-- The registry with one more enumeration, which it holds once. -/
def register (r : Registry) (e : Enumeration) : Registry :=
  ⟨r.entries.filter (fun old => old != e) ++ [e]⟩

/-- The registry of several enumerations. -/
def ofList (es : List Enumeration) : Registry := es.foldl register empty

/-- The enumeration that is registered for a type of values.  A type is known by its name and its
    members, not by its name alone; two types that have both in common count as one. -/
def lookup? (r : Registry) : ValueType → Option Enumeration
  | .enumeration e => r.entries.find? fun entry => entry == e
  | _ => none

/-- A type is looked up as itself. -/
theorem lookup?_enumeration (r : Registry) (e : Enumeration) :
    r.lookup? (.enumeration e) = if e ∈ r.entries then some e else none := by
  rw [lookup?]
  split
  · next h =>
    obtain ⟨e', hfind⟩ : ∃ e', r.entries.find? (fun entry => entry == e) = some e' :=
      Option.isSome_iff_exists.mp (List.find?_isSome.mpr ⟨e, h, beq_self_eq_true e⟩)
    have hsame : (e' == e) = true :=
      List.find?_some (p := fun entry : Enumeration => entry == e) hfind
    rw [hfind, beq_iff_eq.mp hsame]
  · next h =>
    rw [List.find?_eq_none]
    intro e' he' hsame
    exact h (beq_iff_eq.mp hsame ▸ he')

/-- The number of registered types. -/
def size (r : Registry) : Nat := r.entries.length

end Registry

end FilterQuery
