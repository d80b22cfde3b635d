namespace FilterQuery

/-!
# JSON values

Objects keep the order of their keys.  No record holds a number with a fraction or an
exponent, so such a number is only known to be one.
-/

/-- A JSON value. -/
inductive Json where
  | null
  | boolean (b : Bool)
  | integer (n : Int)
  | fraction
  | text (s : String)
  | array (items : List Json)
  | object (entries : List (String × Json))
  deriving Inhabited

namespace Json

/-- The value of a key of an object. -/
def get? (key : String) (entries : List (String × Json)) : Option Json :=
  (entries.find? fun p => p.1 == key).map Prod.snd

/-- A text, or null for none. -/
def ofText? : Option String → Json
  | some s => .text s
  | none => .null

end Json

end FilterQuery
