import FilterQuery.Filter.Field

namespace FilterQuery

/-!
# Entities

An `EntityShape` lists the fields that clients can filter on and the columns that are
read; an `Entity` is a shape with a table behind it and a default order.  A shape may
declare a key twice: the first declaration counts (`EntityShape.distinctFields`).
-/

/-- The fields and columns of an entity. -/
structure EntityShape where
  name : String
  fields : List Field
  columns : List String

/-- An entity that is stored in a table or view. -/
structure Entity extends EntityShape where
  table : String
  defaultSort : String
  defaultDirection : String

namespace EntityShape

/-- The fields by which clients filter: the first of each key. -/
def distinctFields (e : EntityShape) : List Field := Field.distinct e.fields

/-- The field with the given key. -/
def field? (e : EntityShape) (key : String) : Option Field := Field.withKey? e.distinctFields key

end EntityShape

namespace Entity

/-- The statement that reads all columns of all rows. -/
def selectText (e : Entity) : String :=
  "SELECT " ++ ", ".intercalate e.columns ++ " FROM " ++ e.table

/-- The statement that counts all rows. -/
def countText (e : Entity) : String := "SELECT COUNT(*) FROM " ++ e.table

end Entity

end FilterQuery
