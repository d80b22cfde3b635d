import FilterQuery.Filter.Category
import FilterQuery.Filter.Enumeration
import FilterQuery.Entity.TypeText
import FilterQuery.Naming.Case

namespace FilterQuery

/-!
# Declarations of entities and enumerations

An entity is declared as a list of named attributes, an enumeration as a list of labels;
options say what the names alone do not.

* `EntityDeclaration.derive` — the columns and filter fields of a declared entity;
* `EnumDeclaration.derive` — a declared enumeration.

By default the column of an attribute is its name, its filter key the name in camel case,
and the name of an enumeration member its label in upper case with underscores.  Of an
option that is given twice the last value counts.
-/

/-- What an option is set to. -/
inductive OptionValue where
  | bare
  | text (s : String)
  | number
  deriving DecidableEq, Repr

/-- An option of a declaration. -/
structure DeclaredOption where
  key : String
  value : OptionValue
  deriving DecidableEq, Repr

/-- What kind of thing a declaration declares. -/
inductive ItemShape where
  | named
  | positional
  | unit
  | enumeration
  deriving DecidableEq, Repr

/-- Why a declaration is refused. -/
inductive DeclarationError where
  | notStruct
  | notNamed
  | notEnum
  | memberWithData
  | unknownEntityOption
  | unknownFieldOption
  | unknownMemberOption
  | missingValue
  | notText
  | unexpectedValue
  | embeddedWithColumn
  | unknownCategory (name : String)
  | noColumn
  deriving DecidableEq, Repr

/-- The text of a declaration error. -/
def DeclarationError.message : DeclarationError → String
  | .notStruct => "FilterableEntity can only be derived for structs"
  | .notNamed => "FilterableEntity requires a struct with named fields"
  | .notEnum => "FilterEnum can only be derived for enums"
  | .memberWithData => "FilterEnum variants cannot carry data"
  | .unknownEntityOption => "unsupported filterable_entity option"
  | .unknownFieldOption => "unsupported filterable option"
  | .unknownMemberOption => "unsupported filter_enum option"
  | .missingValue => "expected `=`"
  | .notText => "expected string literal"
  | .unexpectedValue => "expected `,`"
  | .embeddedWithColumn => "`flatten` cannot be combined with `type` or `column`"
  | .unknownCategory name =>
    s!"unknown filter type `{name}` (expected text, number, boolean, date, token, enum or identifier)"
  | .noColumn => "an entity with a table needs at least one column"

/-- The text that an option is set to. -/
def DeclaredOption.text (o : DeclaredOption) : Except DeclarationError String :=
  match o.value with
  | .text s => .ok s
  | .bare => .error .missingValue
  | .number => .error .notText

/-- The category that an option names; `uuid` is another name of `identifier`. -/
def Category.ofOption (name : String) : Except DeclarationError Category :=
  if name = "uuid" then .ok .identifier
  else
    match ofName? name with
    | some c => .ok c
    | none => .error (.unknownCategory name)

/-! ### Entities -/

/-- A declared attribute. -/
structure AttributeDeclaration where
  name : String
  type : String
  options : List DeclaredOption

/-- A declared entity. -/
structure EntityDeclaration where
  shape : ItemShape
  name : String
  options : List DeclaredOption
  attributes : List AttributeDeclaration

/-- The options of an attribute. -/
structure AttributeOptions where
  category : Option String
  key : Option String
  column : Option String
  embedded : Bool

/-- The options of an entity. -/
structure EntityOptions where
  table : Option String
  defaultSort : Option String

/-- What a declared attribute adds to an entity: a column, with a filter key, category and
    type where clients can filter on it, or all that another entity has. -/
inductive DerivedAttribute where
  | column (name : String) (filter : Option (String × Category × String))
  | embedded (type : String)
  deriving DecidableEq

/-- The table of a derived entity and the column it is sorted by. -/
structure DerivedTable where
  table : String
  defaultSort : String
  deriving DecidableEq

/-- What is derived from the declaration of an entity. -/
structure DerivedEntity where
  name : String
  attributes : List DerivedAttribute
  table : Option DerivedTable
  deriving DecidableEq

namespace AttributeOptions

/-- No options. -/
def none : AttributeOptions := ⟨.none, .none, .none, false⟩

/-- The options with one more. -/
def add (o : AttributeOptions) (d : DeclaredOption) : Except DeclarationError AttributeOptions :=
  if d.key = "type" then d.text.map fun s => { o with category := some s }
  else if d.key = "name" then d.text.map fun s => { o with key := some s }
  else if d.key = "column" then d.text.map fun s => { o with column := some s }
  else if d.key = "flatten" then
    if d.value = .bare then .ok { o with embedded := true } else .error .unexpectedValue
  else .error .unknownFieldOption

end AttributeOptions

namespace EntityOptions

/-- No options. -/
def none : EntityOptions := ⟨.none, .none⟩

/-- The options with one more. -/
def add (o : EntityOptions) (d : DeclaredOption) : Except DeclarationError EntityOptions :=
  if d.key = "table" then d.text.map fun s => { o with table := some s }
  else if d.key = "default_sort" then d.text.map fun s => { o with defaultSort := some s }
  else .error .unknownEntityOption

end EntityOptions

/-- A name without the mark in front that keeps it from being a keyword. -/
def plainChars : List Char → List Char
  | 'r' :: '#' :: cs => plainChars cs
  | cs => cs

/-- A name without the mark in front that keeps it from being a keyword. -/
def plainName (name : String) : String := String.ofList (plainChars name.toList)

namespace AttributeDeclaration

/-- What an attribute adds to its entity. -/
def derive (a : AttributeDeclaration) : Except DeclarationError DerivedAttribute := do
  let o ← a.options.foldlM AttributeOptions.add AttributeOptions.none
  if o.embedded then
    if o.category.isSome ∨ o.column.isSome then throw .embeddedWithColumn
    else return .embedded (TypeText.compact a.type.toList)
  else
    let name := plainName a.name
    let column := o.column.getD name
    match o.category with
    | none => return .column column none
    | some text =>
      let category ← Category.ofOption text
      return .column column
        (some (o.key.getD (Naming.camel name), category, TypeText.withoutOption a.type))

end AttributeDeclaration

namespace DerivedEntity

/-- The first column that an attribute adds by itself. -/
def firstColumn? (as : List DerivedAttribute) : Option String :=
  as.findSome? fun a => match a with
    | .column name _ => some name
    | .embedded _ => none

end DerivedEntity

namespace EntityDeclaration

/-- The table of an entity; without another choice it is sorted by its first column. -/
def deriveTable (o : EntityOptions) (as : List DerivedAttribute) :
    Except DeclarationError (Option DerivedTable) :=
  match o.table with
  | none => .ok none
  | some table =>
    match o.defaultSort.or (DerivedEntity.firstColumn? as) with
    | some sort => .ok (some ⟨table, sort⟩)
    | none => .error .noColumn

/-- The columns and fields of a declared entity. -/
def derive (d : EntityDeclaration) : Except DeclarationError DerivedEntity :=
  match d.shape with
  | .enumeration => .error .notStruct
  | .positional => .error .notNamed
  | .unit => .error .notNamed
  | .named => do
    let o ← d.options.foldlM EntityOptions.add EntityOptions.none
    let attributes ← d.attributes.mapM AttributeDeclaration.derive
    let table ← deriveTable o attributes
    return ⟨d.name, attributes, table⟩

end EntityDeclaration

/-! ### Enumerations -/

/-- A declared member of an enumeration. -/
structure MemberDeclaration where
  label : String
  carriesData : Bool
  options : List DeclaredOption

/-- A declared enumeration. -/
structure EnumDeclaration where
  isEnumeration : Bool
  name : String
  members : List MemberDeclaration

namespace MemberDeclaration

/-- The name that an option gives to a member. -/
def rename (_ : Option String) (d : DeclaredOption) : Except DeclarationError (Option String) :=
  if d.key = "rename" then d.text.map some else .error .unknownMemberOption

/-- The member of a declaration. -/
def derive (m : MemberDeclaration) : Except DeclarationError Member :=
  if m.carriesData then .error .memberWithData
  else (m.options.foldlM rename none).map fun name =>
    ⟨m.label, name.getD (Naming.upperSnake m.label)⟩

end MemberDeclaration

namespace EnumDeclaration

/-- The enumeration of a declaration. -/
def derive (d : EnumDeclaration) : Except DeclarationError Enumeration :=
  if d.isEnumeration then (d.members.mapM MemberDeclaration.derive).map (⟨d.name, ·⟩)
  else .error .notEnum

end EnumDeclaration

end FilterQuery
