import FilterQuery.Entity.Basic

namespace FilterQuery

/-!
# Models

A model describes the records of an entity attribute by attribute: the key in a JSON
object, the column in a row, the type of the value, whether it may be absent, and the
filter key and category where clients may filter on it.

`auditAttributes` are the two timestamps that most models carry after their own
attributes.
-/

/-- An attribute of a model. -/
structure Attribute where
  key : String
  column : String
  type : ValueType
  optional : Bool
  filter : Option (String × Category)

namespace Attribute

/-- An attribute that must be present and can be filtered on by its own key. -/
def filtered (key column : String) (type : ValueType) (category : Category) : Attribute :=
  ⟨key, column, type, false, some (key, category)⟩

/-- An attribute that clients cannot filter on. -/
def hidden (key column : String) (type : ValueType) : Attribute := ⟨key, column, type, false, none⟩

/-- The attribute as one that may be absent. -/
def orAbsent (a : Attribute) : Attribute := { a with optional := true }

/-- The attribute with another filter key. -/
def filteredAs (key : String) (a : Attribute) : Attribute :=
  { a with filter := a.filter.map fun (_, category) => (key, category) }

/-- A text attribute. -/
def text (key column : String) : Attribute := filtered key column .text .text

/-- An identifier attribute. -/
def identifier (key column : String) : Attribute := filtered key column .identifier .identifier

/-- An attribute whose text is only compared as a whole. -/
def token (key column : String) : Attribute := filtered key column .text .token

/-- An attribute that holds a member of an enumeration. -/
def member (key column : String) (e : Enumeration) : Attribute :=
  filtered key column (.enumeration e) .enumeration

/-- A timestamp attribute. -/
def timestamp (key column : String) : Attribute := filtered key column .timestamp .date

/-- The field of an attribute on which clients can filter. -/
def field? (a : Attribute) : Option Field :=
  a.filter.map fun (key, category) => ⟨key, a.column, category, a.type⟩

end Attribute

/-- The timestamps of creation and of the last change. -/
def auditAttributes : List Attribute :=
  [.timestamp "insertDate" "insert_date", (Attribute.timestamp "updateDate" "update_date").orAbsent]

/-- The shape of an entity with the given attributes. -/
def EntityShape.ofAttributes (name : String) (as : List Attribute) : EntityShape where
  name := name
  fields := as.filterMap Attribute.field?
  columns := as.map Attribute.column

/-- The records of an entity, attribute by attribute. -/
structure Model where
  name : String
  table : String
  defaultSort : String
  own : List Attribute
  audited : Bool

namespace Model

/-- All attributes of a model. -/
def attributes (m : Model) : List Attribute := m.own ++ if m.audited then auditAttributes else []

/-- The entity of a model, in ascending order by default. -/
def entity (m : Model) : Entity where
  toEntityShape := .ofAttributes m.name m.attributes
  table := m.table
  defaultSort := m.defaultSort
  defaultDirection := "ASC"

end Model

end FilterQuery
