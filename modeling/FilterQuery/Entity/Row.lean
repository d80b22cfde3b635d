import FilterQuery.Entity.Record
import FilterQuery.Sql.Cell

namespace FilterQuery

/-!
# Records from rows

A row is read attribute by attribute, in the order of the attributes; the first column that
holds no value of its type is the error of the row.  Identifiers, timestamps and members of
enumerations are stored as texts, truth values as numbers.
-/

/-- Why a column holds no value of its type. -/
inductive DecodeCause where
  | identifier (e : UuidTextError)
  | timestamp (e : TimestampError)
  | member (text typeName : String)
  | kind
  deriving DecidableEq

/-- The text of a decoding cause. -/
def DecodeCause.message : DecodeCause → String
  | .identifier e => e.message
  | .timestamp e => e.message
  | .member text typeName => s!"'{text}' is not a valid {typeName}"
  | .kind => "unexpected kind of value"

/-- A column that could not be read. -/
structure DecodeError where
  column : String
  cause : DecodeCause
  deriving DecidableEq

/-- The text of a decoding error. -/
def DecodeError.message (e : DecodeError) : String :=
  s!"error occurred while decoding column {e.column}: {e.cause.message}"

namespace ValueType

/-- The value that a text stands for in a column. -/
def ofStoredText : (t : ValueType) → String → Except DecodeCause t.Carrier
  | .text, s => .ok s
  | .identifier, s => (Uuid.readText s).mapError .identifier
  | .timestamp, s => (Timestamp.read s).mapError .timestamp
  | .enumeration e, s =>
    if h : s ∈ e.names then .ok ⟨s, h⟩ else .error (.member s e.typeName)
  | .integer, _ => .error .kind
  | .boolean, _ => .error .kind

/-- The value that a number stands for in a column. -/
def ofStoredInteger : (t : ValueType) → Int → Except DecodeCause t.Carrier
  | .integer, n => if h : Bounds.signed64.Contains n then .ok ⟨n, h⟩ else .error .kind
  | .boolean, n => .ok (n != 0 : Bool)
  | _, _ => .error .kind

/-- The value that a column holds. -/
def ofCell (t : ValueType) : Cell → Except DecodeCause t.Carrier
  | .text s => t.ofStoredText s
  | .integer n => t.ofStoredInteger n
  | .real _ => .error .kind
  | .null => .error .kind

end ValueType

namespace Slot

/-- The value that a column holds, or none where it may be absent and is. -/
def ofCell (t : ValueType) : (optional : Bool) → Cell → Except DecodeCause (Slot t optional)
  | false, c => t.ofCell c
  | true, .null => .ok (none : Option t.Carrier)
  | true, c => (t.ofCell c).map (some : t.Carrier → Option t.Carrier)

end Slot

namespace Record

/-- The record that the columns of a row hold. -/
def ofRow (cell : String → Cell) : (as : List Attribute) → Except DecodeError (Record as)
  | [] => .ok ()
  | a :: as =>
    match Slot.ofCell a.type a.optional (cell a.column) with
    | .error cause => .error ⟨a.column, cause⟩
    | .ok v =>
      match ofRow cell as with
      | .error e => .error e
      | .ok rest => .ok (v, rest)

end Record

end FilterQuery
