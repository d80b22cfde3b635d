import FilterQuery.Access.Models
import FilterQuery.Entity.Record
import FilterQuery.Proofs.Calendar.IsoText
import FilterQuery.Proofs.Identifier.RoundTrip

namespace FilterQuery

/-!
# Records and their JSON forms

A record is written as an object with a key for each attribute, and is read back from it.  Keys
that belong to no attribute may stand among the others, and keys without a value may be missing.
Of its timestamps a record only tells what a clock shows, so that is what is read back.

* `Record.shown`, `Record.timestamps` — what a record tells of its timestamps, and what they are;
* `ValueType.ofJson?_toJson`, `Slot.ofJson?_toJson` — values are read back;
* `Json.Varies` — objects that only differ in other keys and in keys without a value;
* `Record.ofEntries?_of_varies` — records are read back from all of these;
* `Access.json_roundTrip` — the records of access control are read back.
-/

/-! ### Timestamps in records -/

namespace ValueType

/-- The value with what a clock shows of a timestamp. -/
def shown : (t : ValueType) → t.Carrier → t.Carrier
  | .timestamp, t => Timestamp.shown t
  | .text, v | .integer, v | .boolean, v | .identifier, v | .enumeration _, v => v

/-- The timestamps of a value. -/
def timestamps : (t : ValueType) → t.Carrier → List Timestamp
  | .timestamp, t => [t]
  | .text, _ | .integer, _ | .boolean, _ | .identifier, _ | .enumeration _, _ => []

/-- A value tells all of its timestamps that a clock shows as they are. -/
theorem shown_eq_self_iff {t : ValueType} {v : t.Carrier} :
    t.shown v = v ↔ ∀ time ∈ t.timestamps v, time.IsRegular := by
  cases t with
  | timestamp =>
    have hone : (∀ time ∈ [v], Timestamp.IsRegular time) ↔ Timestamp.IsRegular v :=
      List.forall_mem_singleton
    exact Timestamp.shown_eq_self_iff.trans hone.symm
  | _ => simp [shown, timestamps]

end ValueType

namespace Slot

/-- The value, if there is one, with what a clock shows of a timestamp. -/
def shown (t : ValueType) : (optional : Bool) → Slot t optional → Slot t optional
  | false, v => t.shown v
  | true, v => Option.map t.shown v

/-- The timestamps of a value that may be absent. -/
def timestamps (t : ValueType) : (optional : Bool) → Slot t optional → List Timestamp
  | false, v => t.timestamps v
  | true, some v => t.timestamps v
  | true, none => []

theorem shown_eq_self_iff {t : ValueType} {optional : Bool} {v : Slot t optional} :
    shown t optional v = v ↔ ∀ time ∈ timestamps t optional v, time.IsRegular := by
  cases optional with
  | false => exact ValueType.shown_eq_self_iff
  | true =>
    cases v with
    | none => exact iff_of_true rfl (List.forall_mem_nil _)
    | some v =>
      rw [timestamps, ← ValueType.shown_eq_self_iff]
      exact Option.some_inj

end Slot

namespace Record

/-- The record with what a clock shows of its timestamps. -/
def shown : (as : List Attribute) → Record as → Record as
  | [], _ => ()
  | a :: as, (v, rest) => (Slot.shown a.type a.optional v, shown as rest)

/-- The timestamps of a record. -/
def timestamps : (as : List Attribute) → Record as → List Timestamp
  | [], _ => []
  | a :: as, (v, rest) => Slot.timestamps a.type a.optional v ++ timestamps as rest

/-- A record tells all of its timestamps that a clock shows as they are. -/
theorem shown_eq_self_iff {as : List Attribute} {r : Record as} :
    shown as r = r ↔ ∀ time ∈ timestamps as r, time.IsRegular := by
  induction as with
  | nil => exact iff_of_true rfl (List.forall_mem_nil _)
  | cons a as ih =>
    obtain ⟨v, rest⟩ := r
    rw [timestamps, List.forall_mem_append, ← Slot.shown_eq_self_iff, ← ih]
    exact Prod.mk_inj

end Record

/-! ### Values -/

namespace ValueType

theorem ofJson?_identifier (u : Uuid) : ofJson? .identifier (.text u.text) = some u := by
  show (Uuid.read u.text).toOption = some u
  rw [Uuid.read_text]
  rfl

/-- A value is read back, as what a clock shows where it is a timestamp. -/
theorem ofJson?_toJson (t : ValueType) (v : t.Carrier) :
    t.ofJson? (t.toJson v) = some (t.shown v) := by
  cases t with
  | text => rfl
  | integer => exact dif_pos v.property
  | boolean => rfl
  | identifier => exact ofJson?_identifier v
  | timestamp => exact Timestamp.readIso?_isoText v
  | enumeration e => exact dif_pos v.property

/-- A value is not written as null. -/
theorem toJson_ne_null (t : ValueType) (v : t.Carrier) : t.toJson v ≠ .null := by
  cases t <;> nofun

end ValueType

namespace Slot

variable {t : ValueType}

/-- A value that may be absent is read back. -/
theorem ofJson?_toJson {optional : Bool} (v : Slot t optional) :
    ofJson? t optional (some (toJson t optional v)) = some (shown t optional v) := by
  cases optional with
  | false => exact t.ofJson?_toJson v
  | true =>
    cases v with
    | none => rfl
    | some v =>
      have hread : (t.ofJson? (t.toJson v)).map some = some (some (t.shown v)) := by
        rw [t.ofJson?_toJson]
        rfl
      have hvalue := t.toJson_ne_null v
      show ofJson? t true (some (t.toJson v)) = _
      -- only null is read as no value
      cases hj : t.toJson v with
      | null => exact absurd hj hvalue
      | _ => rw [hj] at hread; exact hread

/-- What is written as null may as well be missing. -/
theorem ofJson?_none {optional : Bool} {v : Slot t optional} (h : toJson t optional v = .null) :
    ofJson? t optional none = some (shown t optional v) := by
  cases optional with
  | false => exact absurd h (t.toJson_ne_null v)
  | true =>
    cases v with
    | none => rfl
    | some v => exact absurd h (t.toJson_ne_null v)

end Slot

/-! ### Objects -/

namespace Json

/-- The second object has the entries of the first, but that entries with other keys than the
    given ones may stand among them, and that entries with null may be missing. -/
inductive Varies (keys : List String) : List (String × Json) → List (String × Json) → Prop
  | nil : Varies keys [] []
  | keep {entries others : List (String × Json)} (p : String × Json)
    (h : Varies keys entries others) : Varies keys (p :: entries) (p :: others)
  | drop {entries others : List (String × Json)} (key : String)
    (h : Varies keys entries others) : Varies keys ((key, .null) :: entries) others
  | add {entries others : List (String × Json)} {key : String} (value : Json)
    (hkey : key ∉ keys) (h : Varies keys entries others) :
    Varies keys entries ((key, value) :: others)

variable {keys : List String} {entries others : List (String × Json)}

/-- An object varies from itself. -/
theorem Varies.refl (keys : List String) (entries : List (String × Json)) :
    Varies keys entries entries := by
  induction entries with
  | nil => exact .nil
  | cons p entries ih => exact .keep p ih

@[simp] theorem get?_cons_self (key : String) (value : Json) (entries : List (String × Json)) :
    get? key ((key, value) :: entries) = some value := by
  simp [get?]

theorem get?_cons_of_ne {key other : String} (h : other ≠ key) (value : Json)
    (entries : List (String × Json)) :
    get? key ((other, value) :: entries) = get? key entries := by
  simp [get?, h]

/-- A key that an object does not have is none that varied objects have. -/
theorem Varies.get?_eq_none (h : Varies keys entries others) {key : String} (hkey : key ∈ keys)
    (hentries : key ∉ entries.map Prod.fst) : get? key others = none := by
  induction h with
  | nil => rfl
  | @keep entries others p _ ih =>
    obtain ⟨other, value⟩ := p
    rw [List.map_cons, List.mem_cons, not_or] at hentries
    rw [get?_cons_of_ne (Ne.symm hentries.1), ih hentries.2]
  | drop _ _ ih =>
    rw [List.map_cons, List.mem_cons, not_or] at hentries
    exact ih hentries.2
  | add value hother _ ih =>
    have hne := (ne_of_mem_of_not_mem hkey hother).symm
    rw [get?_cons_of_ne hne, ih hentries]

/-- The value of a key is kept, or it is null and the key is missing. -/
theorem Varies.get?_eq (h : Varies keys entries others) (hkeys : entries.map Prod.fst ⊆ keys)
    (hnodup : (entries.map Prod.fst).Nodup) :
    ∀ p ∈ entries, get? p.1 others = some p.2 ∨ (p.2 = .null ∧ get? p.1 others = none) := by
  induction h with
  | nil => exact fun p hp => absurd hp List.not_mem_nil
  | @keep entries others p _ ih =>
    obtain ⟨key, value⟩ := p
    rw [List.map_cons, List.cons_subset] at hkeys
    rw [List.map_cons, List.nodup_cons] at hnodup
    rw [List.forall_mem_cons]
    refine ⟨.inl (get?_cons_self key value others), fun p hp => ?_⟩
    have hne : key ≠ p.1 := by
      rintro rfl
      exact hnodup.1 (List.mem_map.mpr ⟨p, hp, rfl⟩)
    rw [get?_cons_of_ne hne]
    exact ih hkeys.2 hnodup.2 p hp
  | drop key hvaries ih =>
    rw [List.map_cons, List.cons_subset] at hkeys
    rw [List.map_cons, List.nodup_cons] at hnodup
    rw [List.forall_mem_cons]
    exact ⟨.inr ⟨rfl, hvaries.get?_eq_none hkeys.1 hnodup.1⟩, ih hkeys.2 hnodup.2⟩
  | add value hother _ ih =>
    intro p hp
    have hne := (ne_of_mem_of_not_mem (hkeys (List.mem_map_of_mem hp)) hother).symm
    rw [get?_cons_of_ne hne]
    exact ih hkeys hnodup p hp

end Json

/-! ### Records -/

namespace Record

theorem map_fst_toEntries (as : List Attribute) (r : Record as) :
    (toEntries as r).map Prod.fst = as.map Attribute.key := by
  induction as with
  | nil => rfl
  | cons a as ih =>
    obtain ⟨v, rest⟩ := r
    rw [toEntries, List.map_cons, ih rest, List.map_cons]

/-- A record is read back from an object that has its values, where null may be missing; a
    timestamp is read as what a clock shows. -/
theorem ofEntries?_of_get? {as : List Attribute} {r : Record as} {entries : List (String × Json)}
    (h : ∀ p ∈ toEntries as r, Json.get? p.1 entries = some p.2 ∨
      (p.2 = .null ∧ Json.get? p.1 entries = none)) :
    ofEntries? as entries = some (shown as r) := by
  induction as with
  | nil => rfl
  | cons a as ih =>
    obtain ⟨v, rest⟩ := r
    rw [toEntries, List.forall_mem_cons] at h
    have hvalue : Slot.ofJson? a.type a.optional (Json.get? a.key entries) =
        some (Slot.shown a.type a.optional v) := by
      obtain hget | ⟨hnull, hget⟩ := h.1
      · rw [hget, Slot.ofJson?_toJson]
      · rw [hget, Slot.ofJson?_none hnull]
    rw [ofEntries?, hvalue, ih h.2]
    rfl

/-- A record whose keys are distinct is read back from all objects that its own varies to. -/
theorem ofEntries?_of_varies {as : List Attribute} (hkeys : (as.map Attribute.key).Nodup)
    {r : Record as} {entries : List (String × Json)}
    (h : Json.Varies (as.map Attribute.key) (toEntries as r) entries) :
    ofEntries? as entries = some (shown as r) := by
  rw [← map_fst_toEntries as r] at h hkeys
  exact ofEntries?_of_get? (h.get?_eq (List.Subset.refl _) hkeys)

end Record

/-! ### Access control -/

namespace Access

/-- The attributes of the records of access control, and of the timestamps that most of them end
    with. -/
def attributeLists : List (List Attribute) :=
  auditAttributes :: EntityKind.every.map fun kind => kind.model.attributes

/-- No two attributes of a record have one key. -/
theorem nodup_keys : ∀ as ∈ attributeLists, (as.map Attribute.key).Nodup := by decide +kernel

/-- **Records are read back from JSON.** A record of access control is written as an object
    without a repeated key.  From this object, also with other keys among those of the attributes
    and without keys that have no value, the record is read with what a clock shows of its
    timestamps; that is the record itself exactly where all of its leap seconds end a minute. -/
theorem json_roundTrip {as : List Attribute} (has : as ∈ attributeLists) (r : Record as)
    (positional : Bool) :
    ((Record.toEntries as r).map Prod.fst).Nodup ∧
      Record.toJson as r = .object (Record.toEntries as r) ∧
      Record.ofJson? positional as (Record.toJson as r) = some (Record.shown as r) ∧
      (∀ entries, Json.Varies (as.map Attribute.key) (Record.toEntries as r) entries →
        Record.ofJson? positional as (.object entries) = some (Record.shown as r)) ∧
      (Record.shown as r = r ↔ ∀ time ∈ Record.timestamps as r, time.IsRegular) := by
  have hkeys := nodup_keys as has
  refine ⟨?_, rfl, ?_, fun entries h => Record.ofEntries?_of_varies hkeys h,
    Record.shown_eq_self_iff⟩
  · rw [Record.map_fst_toEntries]
    exact hkeys
  · exact Record.ofEntries?_of_varies hkeys (.refl _ _)

/-- A permission for all libraries, made in the last nanosecond of a leap second of the first year,
    with a key of no attribute and without those that have no value. -/
theorem json_roundTrip_permission :
    let made : Timestamp := ⟨⟨-262143, 12, 31, by decide, by decide, by decide⟩,
      ⟨23, 59, 59, 1999999999, by decide, by decide, by decide, by decide⟩⟩
    let id : Uuid := ⟨0x0123456789abcdef0123456789abcdef⟩
    let r : Record permission.attributes :=
      (id, ⟨"LIBRARY", by decide⟩, ⟨"UPDATE", by decide⟩, none, made, none, ())
    made.isoText = "-262143-12-31T23:59:60.999999999" ∧
      permission.ofJson? (.object [("id", .text id.text), ("size", .fraction),
        ("entity", .text "LIBRARY"), ("action", .text "UPDATE"),
        ("insertDate", .text made.isoText)]) = some r := by
  intro made id r
  have hmem : permission.attributes ∈ attributeLists :=
    List.mem_cons_of_mem _ (List.mem_map.mpr ⟨.permission, EntityKind.mem_every _, rfl⟩)
  obtain ⟨-, -, -, hvaries, hshown⟩ := json_roundTrip hmem r false
  have hregular : ∀ time ∈ Record.timestamps permission.attributes r, time.IsRegular := by
    decide +kernel
  refine ⟨by decide +kernel, ?_⟩
  rw [← hshown.mpr hregular]
  apply hvaries
  exact .keep _ (.add _ (by decide +kernel)
    (.keep _ (.keep _ (.drop "libraryId" (.keep _ (.drop "updateDate" .nil))))))

/-- A permission that was made in a leap second after second 15 is read back as made in the second
    that follows. -/
theorem json_roundTrip_irregular :
    let made : Timestamp := ⟨⟨2024, 1, 1, by decide, by decide, by decide⟩,
      ⟨12, 30, 15, 1500000000, by decide, by decide, by decide, by decide⟩⟩
    let r : Record permission.attributes :=
      (⟨0⟩, ⟨"LIBRARY", by decide⟩, ⟨"UPDATE", by decide⟩, none, made, none, ())
    made.isoText = "2024-01-01T12:30:16.500" ∧
      permission.ofJson? (Record.toJson permission.attributes r) ≠ some r := by
  intro made r
  refine ⟨by decide +kernel, ?_⟩
  have hmem : permission.attributes ∈ attributeLists :=
    List.mem_cons_of_mem _ (List.mem_map.mpr ⟨.permission, EntityKind.mem_every _, rfl⟩)
  have hread : permission.ofJson? (Record.toJson permission.attributes r) =
      some (Record.shown permission.attributes r) :=
    Record.ofEntries?_of_varies (nodup_keys _ hmem) (.refl _ _)
  rw [hread]
  intro hsame
  have hregular := Record.shown_eq_self_iff.mp (Option.some.inj hsame)
  have hmade : made ∈ Record.timestamps permission.attributes r := by decide +kernel
  exact absurd (hregular made hmade) (by decide)

end Access

end FilterQuery
