import FilterQuery.Entity.Basic
import FilterQuery.Entity.Declaration

namespace FilterQuery

/-!
# Entities within entities

An attribute of a derived entity may embed another entity.  The fields and columns of the
embedded entity then stand in the place of the attribute.

* `DerivedEntity.shape` — the shape of an entity, given those of the entities it embeds;
* `DerivedEntity.shapeOf` — the shape of a named entity among several, each of which may
  embed those declared before it;
* `DerivedEntity.entity?` — the entity, if it has a table.

A declaration writes the type of an attribute as text; `types` says what such a text means.
-/

namespace DerivedAttribute

/-- The columns that an attribute contributes. -/
def columns (shapes : String → EntityShape) : DerivedAttribute → List String
  | .column name _ => [name]
  | .embedded type => (shapes type).columns

/-- The fields that an attribute contributes. -/
def fields (types : String → ValueType) (shapes : String → EntityShape) :
    DerivedAttribute → List Field
  | .column name (some (key, category, type)) => [⟨key, name, category, types type⟩]
  | .column _ none => []
  | .embedded type => (shapes type).fields

end DerivedAttribute

namespace DerivedEntity

/-- The shape of an entity, given those of the entities it embeds. -/
def shape (types : String → ValueType) (shapes : String → EntityShape) (d : DerivedEntity) :
    EntityShape where
  name := d.name
  fields := d.attributes.flatMap (DerivedAttribute.fields types shapes)
  columns := d.attributes.flatMap (DerivedAttribute.columns shapes)

/-- The shape of the entity of a given name, the latest declaration first.  A name that is
    not declared has neither fields nor columns. -/
def shapeOf (types : String → ValueType) : List DerivedEntity → String → EntityShape
  | [], name => ⟨name, [], []⟩
  | d :: earlier, name =>
    if name = d.name then d.shape types (shapeOf types earlier) else shapeOf types earlier name

/-- The entity, if it has a table; it is sorted in ascending order by default. -/
def entity? (types : String → ValueType) (shapes : String → EntityShape) (d : DerivedEntity) :
    Option Entity :=
  d.table.map fun t =>
    { toEntityShape := d.shape types shapes
      table := t.table
      defaultSort := t.defaultSort
      defaultDirection := "ASC" }

end DerivedEntity

end FilterQuery
