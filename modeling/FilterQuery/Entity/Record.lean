import FilterQuery.Calendar.Printer
import FilterQuery.Calendar.Reader
import FilterQuery.Entity.Model
import FilterQuery.Identifier.Reader
import FilterQuery.Json.Basic

namespace FilterQuery

/-!
# Records and their JSON form

A `Record` of a list of attributes has one value for each, of the attribute's type; an
optional attribute may be without one.  In JSON a record is an object: identifiers are
texts in any of their forms, timestamps are `YYYY-MM-DDTHH:MM:SS` with an optional
fraction, members of an enumeration are their names.

Unknown keys are ignored, and a missing optional attribute is absent.
-/

/-- The values of a type. -/
def ValueType.Carrier : ValueType → Type
  | .text => String
  | .integer => { n : Int // Bounds.signed64.Contains n }
  | .boolean => Bool
  | .identifier => Uuid
  | .timestamp => Timestamp
  | .enumeration e => { s : String // s ∈ e.names }

/-- The values of an attribute: those of its type, or none where it is optional. -/
def Slot (t : ValueType) : Bool → Type
  | true => Option t.Carrier
  | false => t.Carrier

/-- One value for each attribute. -/
def Record : List Attribute → Type
  | [] => Unit
  | a :: as => Slot a.type a.optional × Record as

namespace ValueType

/-- The name that an enumeration member is written as: a text, or an object with the name
    as its only key and no content. -/
def memberName? : Json → Option String
  | .text s => some s
  | .object [(s, .null)] => some s
  | _ => none

/-- A value in JSON. -/
def toJson : (t : ValueType) → t.Carrier → Json
  | .text, (s : String) => .text s
  | .integer, n => .integer n.val
  | .boolean, (b : Bool) => .boolean b
  | .identifier, u => .text (Uuid.text u)
  | .timestamp, t => .text (Timestamp.isoText t)
  | .enumeration _, s => .text s.val

/-- The value that JSON stands for. -/
def ofJson? : (t : ValueType) → Json → Option t.Carrier
  | .text, .text s => some s
  | .integer, .integer n => if h : Bounds.signed64.Contains n then some ⟨n, h⟩ else none
  | .boolean, .boolean b => some b
  | .identifier, .text s => (Uuid.read s).toOption
  | .timestamp, .text s => Timestamp.readIso? s
  | .enumeration e, j =>
    match memberName? j with
    | some s => if h : s ∈ e.names then some ⟨s, h⟩ else none
    | none => none
  | _, _ => none

end ValueType

namespace Slot

/-- A value, or null for none, in JSON. -/
def toJson (t : ValueType) : (optional : Bool) → Slot t optional → Json
  | false, v => t.toJson v
  | true, some v => t.toJson v
  | true, none => .null

/-- The value that JSON stands for, where it is null or missing none. -/
def ofJson? (t : ValueType) : (optional : Bool) → Option Json → Option (Slot t optional)
  | false, some j => t.ofJson? j
  | false, none => none
  | true, none => some (none : Option t.Carrier)
  | true, some .null => some (none : Option t.Carrier)
  | true, some j => (t.ofJson? j).map (some : t.Carrier → Option t.Carrier)

end Slot

namespace Record

/-- The entries of a record as an object. -/
def toEntries : (as : List Attribute) → Record as → List (String × Json)
  | [], _ => []
  | a :: as, (v, rest) => (a.key, Slot.toJson a.type a.optional v) :: toEntries as rest

/-- The record as an object. -/
def toJson (as : List Attribute) (r : Record as) : Json := .object (toEntries as r)

/-- The record that the entries of an object stand for. -/
def ofEntries? : (as : List Attribute) → List (String × Json) → Option (Record as)
  | [], _ => some ()
  | a :: as, entries =>
    match Slot.ofJson? a.type a.optional (Json.get? a.key entries), ofEntries? as entries with
    | some v, some rest => some (v, rest)
    | _, _ => none

/-- The record that the items of an array stand for, one for each attribute. -/
def ofItems? : (as : List Attribute) → List Json → Option (Record as)
  | [], [] => some ()
  | a :: as, j :: js =>
    match Slot.ofJson? a.type a.optional (some j), ofItems? as js with
    | some v, some rest => some (v, rest)
    | _, _ => none
  | _, _ => none

/-- The record that an object stands for; where `positional`, an array may stand for it
    too. -/
def ofJson? (positional : Bool) (as : List Attribute) : Json → Option (Record as)
  | .object entries => ofEntries? as entries
  | .array items => if positional then ofItems? as items else none
  | _ => none

end Record

namespace Model

/-- The record of a model that JSON stands for.  Only a model without timestamps can be
    written as an array. -/
def ofJson? (m : Model) (j : Json) : Option (Record m.attributes) :=
  Record.ofJson? (!m.audited) m.attributes j

end Model

end FilterQuery
