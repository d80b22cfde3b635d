import FilterQuery.Filter.Field
import FilterQuery.Filter.FieldFilter
import FilterQuery.Filter.Params

namespace FilterQuery

/-!
# Compiling parameters to a predicate

Each field whose key is among the parameters, with at least one alternative, contributes
one predicate; the compiled predicate is their conjunction, in the order of the fields.
Other parameters are ignored, and the first value that cannot be read is the error of the
whole.

* `Field.filters` — the filters of the fields that contribute;
* `Field.compile` — the conjunction of their predicates.
-/

/-- The filter of a field, with the field it belongs to. -/
structure BoundFilter where
  field : Field
  filter : FieldFilter

/-- The predicate of a bound filter, on the column of its field. -/
def BoundFilter.predicate (b : BoundFilter) : Except FilterError Predicate :=
  b.filter.predicate b.field.column

namespace Field

/-- How a field is filtered: strictly where its type is registered, else by category. -/
def kind (registry : Registry) (f : Field) : FilterKind :=
  match registry.lookup? f.type with
  | some e => .strict e
  | none => .ofCategory f.category

/-- The filter that the parameters hold for a field. -/
def filter? (registry : Registry) (params : Params) (f : Field) :
    Except FilterError (Option BoundFilter) :=
  match params.get? f.key with
  | none => .ok none
  | some raw => (FieldFilter.read (f.kind registry) f.key (some raw)).map fun o => o.map (⟨f, ·⟩)

/-- The filters of the fields that contribute, in the order of the fields. -/
def filters (registry : Registry) (params : Params) :
    List Field → Except FilterError (List BoundFilter)
  | [] => .ok []
  | f :: fs =>
    match f.filter? registry params with
    | .error e => .error e
    | .ok none => filters registry params fs
    | .ok (some b) => (filters registry params fs).map (b :: ·)

/-- The predicates of filters, in order, up to the first error. -/
def predicates : List BoundFilter → Except FilterError (List Predicate)
  | [] => .ok []
  | b :: bs =>
    match b.predicate with
    | .error e => .error e
    | .ok p => (predicates bs).map (p :: ·)

/-- The predicate of the parameters on the given fields. -/
def compile (registry : Registry) (fs : List Field) (params : Params) :
    Except FilterError Predicate :=
  match filters registry params fs with
  | .error e => .error e
  | .ok bs => (predicates bs).map Predicate.allOf

end Field

end FilterQuery
