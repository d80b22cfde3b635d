namespace FilterQuery

/-!
# Parameter maps

The parameters of a request map keys to texts.  A key is looked up by its first entry,
and `insert` puts a new value in place of an old one.
-/

/-- A map from keys to texts. -/
structure Params where
  entries : List (String × String)

namespace Params

/-- The map without keys. -/
def empty : Params := ⟨[]⟩

/-- The value of a key. -/
def get? (ps : Params) (key : String) : Option String :=
  (ps.entries.find? fun p => p.1 == key).map Prod.snd

/-- The parameters without a key. -/
def erase (ps : Params) (key : String) : Params := ⟨ps.entries.filter fun p => p.1 != key⟩

/-- The parameters with a value for a key, in place of any it had. -/
def insert (ps : Params) (key value : String) : Params := ⟨(key, value) :: (ps.erase key).entries⟩

@[simp] theorem get?_empty (key : String) : empty.get? key = none := rfl

/-- An erased key has no value; the others keep theirs. -/
theorem get?_erase (ps : Params) (key other : String) :
    (ps.erase key).get? other = if other = key then none else ps.get? other := by
  obtain ⟨entries⟩ := ps
  induction entries with
  | nil => simp [get?, erase]
  | cons p ps ih =>
    by_cases hp : p.1 = key <;> by_cases ho : p.1 = other <;> by_cases hk : other = key <;>
      simp_all [get?, erase]

/-- After an insertion the key has the new value; the others keep theirs. -/
theorem get?_insert (ps : Params) (key value other : String) :
    (ps.insert key value).get? other = if other = key then some value else ps.get? other := by
  have herase := get?_erase ps key other
  by_cases h : other = key
  · simp [get?, insert, h]
  · have h' : ¬key = other := fun e => h e.symm
    simp_all [get?, insert]

end Params

end FilterQuery
