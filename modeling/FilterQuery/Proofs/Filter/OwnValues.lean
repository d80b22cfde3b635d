import FilterQuery.Entity.Row
import FilterQuery.Proofs.Filter.OwnLiterals

namespace FilterQuery

/-!
# Rows and their own values

What a column holds can be printed and asked for again: the filter value is read as what the
column holds, and the column compares as equal with it.

* `ValueType.printed` — what a column holds, read from the row and printed as a filter value;
* `Field.Stores` — what a column holds that was written by its type;
* `Field.finds_printed` — a field finds its own values;
* `Field.exists_compile_of_finds` — fields that all find their values compile to a predicate
  that is true.
-/

/-! ### Types of values -/

namespace ValueType

/-- The categories under which values of a type are filtered. -/
def categories : ValueType → List Category
  | .text => [.text, .token]
  | .integer => [.number]
  | .boolean => [.boolean]
  | .identifier => [.identifier]
  | .timestamp => [.date]
  | .enumeration _ => [.enumeration]

/-- The preference of a column that would turn the stored values of a type into others. -/
def rival : ValueType → Affinity
  | .integer | .boolean => .text
  | .text | .identifier | .timestamp | .enumeration _ => .numeric

/-- The text in which a value is given as a filter value. -/
def print : (t : ValueType) → t.Carrier → String
  | .text, (s : String) => s
  | .integer, n => toString n.val
  | .boolean, (b : Bool) => toString b
  | .identifier, u => Uuid.text u
  | .timestamp, t => Timestamp.text t
  | .enumeration _, s => s.val

/-- The filter value for what a column holds: `null` where it is absent, else the value that is
    read from it, printed.  There is none where the column holds no value of the type. -/
def printed (t : ValueType) (c : Cell) : String :=
  match c with
  | .null => "null"
  | c =>
    match t.ofCell c with
    | .ok v => t.print v
    | .error _ => ""

theorem printed_integer {n : Int} (h : Bounds.signed64.Contains n) :
    printed .integer (.integer n) = toString n := by
  simp [printed, ofCell, ofStoredInteger, h, print]

theorem printed_boolean (n : Int) : printed .boolean (.integer n) = toString (n != 0) := rfl

theorem printed_identifier (u : Uuid) : printed .identifier (.text u.text) = u.text := by
  simp only [printed, ofCell, ofStoredText, Uuid.readText_text]
  rfl

/-- The fraction of a second is not in the stored text, and is not missed in it. -/
theorem printed_timestamp (t : Timestamp) : printed .timestamp (.text t.text) = t.text := by
  simp only [printed, ofCell, ofStoredText, Timestamp.read_text]
  exact t.text_shownSecond

theorem printed_member {e : Enumeration} {name : String} (h : name ∈ e.names) :
    printed (.enumeration e) (.text name) = name := by
  simp [printed, ofCell, ofStoredText, h, print]

end ValueType

/-! ### Fields -/

namespace Field

/-- A text that a field can be filtered by as it is. -/
structure IsPlainText (f : Field) (s : String) : Prop extends Alternative.IsLiteral s where
  present : Alternative.isNullLiteral s = false
  exact : f.category = .text → Text.beginsWith "lk_" s.toList = false

/-- What a column holds that was written by the type of a field: nothing, a number, or the text
    of a value. -/
inductive Stores (f : Field) : Cell → Prop
  | absent : f.Stores .null
  | text {s : String} (htype : f.type = .text) (h : f.IsPlainText s) : f.Stores (.text s)
  | integer {n : Int} (htype : f.type = .integer) (h : Bounds.signed64.Contains n) :
    f.Stores (.integer n)
  | boolean {n : Int} (htype : f.type = .boolean) : f.Stores (.integer n)
  | identifier {u : Uuid} (htype : f.type = .identifier) : f.Stores (.text u.text)
  | timestamp {t : Timestamp} (htype : f.type = .timestamp) : f.Stores (.text t.text)
  | member {e : Enumeration} {name : String} (htype : f.type = .enumeration e)
    (h : name ∈ e.names) : f.Stores (.text name)

/-- A field that is filtered by a category for the type of its values.  The members of its
    enumeration stand for themselves. -/
structure IsTyped (f : Field) : Prop where
  category_mem : f.category ∈ f.type.categories
  literal : ∀ e, f.type = .enumeration e → ∀ name ∈ e.names,
    Alternative.IsLiteral name ∧ Alternative.isNullLiteral name = false

variable {registry : Registry} {f : Field} {row : Row}

/-- What was written by the type of a field is read by it. -/
theorem Stores.exists_ofCell {c : Cell} (h : f.Stores c) (hc : c ≠ .null) :
    ∃ v, f.type.ofCell c = .ok v := by
  cases h with
  | absent => exact absurd rfl hc
  | text htype _ => rw [htype]; exact ⟨_, rfl⟩
  | integer htype h => rw [htype]; exact ⟨_, dif_pos h⟩
  | boolean htype => rw [htype]; exact ⟨_, rfl⟩
  | @identifier u htype =>
    have hread : (Uuid.readText u.text).mapError DecodeCause.identifier = .ok u := by
      rw [Uuid.readText_text]
      rfl
    rw [htype]
    exact ⟨_, hread⟩
  | @timestamp t htype =>
    have hread : (Timestamp.read t.text).mapError DecodeCause.timestamp = .ok t.shownSecond := by
      rw [Timestamp.read_text]
      rfl
    rw [htype]
    exact ⟨_, hread⟩
  | member htype h => rw [htype]; exact ⟨_, dif_pos h⟩

/-- A field without an enumeration is filtered by its category. -/
theorem kind_eq_ofCategory (h : ∀ e, f.type ≠ .enumeration e) :
    f.kind registry = .ofCategory f.category := by
  have hlookup : registry.lookup? f.type = none := by
    rw [Registry.lookup?.eq_def]
    split
    · next e he => exact absurd he (h e)
    · rfl
  rw [kind, hlookup]

/-- A field whose values have one category is filtered by it. -/
theorem IsTyped.kind_eq (htyped : f.IsTyped) {t : ValueType} (htype : f.type = t)
    (ht : ∀ e, t ≠ .enumeration e) {category : Category} (hcategory : t.categories = [category]) :
    f.kind registry = .ofCategory category := by
  have hmem := htyped.category_mem
  rw [htype, hcategory, List.mem_singleton] at hmem
  rw [kind_eq_ofCategory (htype ▸ ht), hmem]

/-- A field of an enumeration is filtered by its category, or strictly by the enumeration. -/
theorem IsTyped.kind_of_enumeration (htyped : f.IsTyped) {e : Enumeration}
    (htype : f.type = .enumeration e) :
    f.kind registry = .enumeration ∨ f.kind registry = .strict e := by
  have hmem := htyped.category_mem
  rw [htype] at hmem
  rw [kind, htype, Registry.lookup?_enumeration]
  by_cases he : e ∈ registry.entries
  · rw [if_pos he]
    exact .inr rfl
  · rw [if_neg he, List.mem_singleton.mp hmem]
    exact .inl rfl

/-- A text that was written by a field is found by it, as a text or as a token. -/
theorem finds_plainText (htyped : f.IsTyped) (htype : f.type = .text) {s : String}
    (h : f.IsPlainText s) (hcell : row.cell f.column = .text s)
    (haffinity : row.affinity f.column ≠ .numeric) :
    (f.kind registry).Finds row f.key f.column s := by
  rw [kind_eq_ofCategory (by rw [htype]; exact nofun)]
  have hcategory : f.category = .text ∨ f.category = .token := by
    simpa [htype, ValueType.categories] using htyped.category_mem
  obtain hcategory | hcategory := hcategory
  · rw [hcategory]
    exact FilterKind.finds_text h.toIsLiteral h.present (h.exact hcategory) hcell
  · rw [hcategory]
    exact FilterKind.finds_token h.toIsLiteral h.present hcell haffinity

/-- **Fields find their own values.** What a column holds that was written by the type of a field
    is found by the field under its text. -/
theorem finds_printed (htyped : f.IsTyped) (hstores : f.Stores (row.cell f.column))
    (haffinity : row.affinity f.column ≠ f.type.rival)
    (hflag : f.type = .boolean → ∀ n, row.cell f.column = .integer n → n = 0 ∨ n = 1) :
    (f.kind registry).Finds row f.key f.column (f.type.printed (row.cell f.column)) := by
  generalize hcell : row.cell f.column = c at hstores hflag ⊢
  cases hstores with
  | absent => exact FilterKind.finds_null hcell
  | @text s htype h =>
    rw [htype] at haffinity ⊢
    exact finds_plainText htyped htype h hcell haffinity
  | @integer n htype h =>
    rw [htyped.kind_eq htype nofun rfl, htype, ValueType.printed_integer h]
    rw [htype] at haffinity
    exact FilterKind.finds_integer h hcell haffinity
  | @boolean n htype =>
    -- of all numbers only 0 and 1 are equal to the truth value that is read from them
    have hcell' : row.cell f.column = (Value.boolean (n != 0)).cell := by
      obtain rfl | rfl := hflag htype n rfl <;> exact hcell
    rw [htyped.kind_eq htype nofun rfl, htype, ValueType.printed_boolean]
    rw [htype] at haffinity
    exact FilterKind.finds_boolean hcell' haffinity
  | @identifier u htype =>
    rw [htyped.kind_eq htype nofun rfl, htype, ValueType.printed_identifier]
    rw [htype] at haffinity
    exact FilterKind.finds_identifier hcell haffinity
  | @timestamp t htype =>
    rw [htyped.kind_eq htype nofun rfl, htype, ValueType.printed_timestamp]
    rw [htype] at haffinity
    exact FilterKind.finds_timestamp hcell haffinity
  | @member e name htype h =>
    obtain ⟨hliteral, hnull⟩ := htyped.literal e htype name h
    have hkind : f.kind registry = .enumeration ∨ f.kind registry = .strict e :=
      htyped.kind_of_enumeration htype
    rw [htype] at haffinity ⊢
    rw [ValueType.printed_member h]
    obtain ⟨hstrict, hmember⟩ := FilterKind.finds_member h hliteral hnull hcell haffinity
    obtain hkind | hkind := hkind
    · rw [hkind]
      exact hmember
    · rw [hkind]
      exact hstrict

/-! ### Compiling -/

/-- What a filter value asks of a field that it finds is true. -/
theorem valueTruth_of_finds {raw : String}
    (h : (f.kind registry).Finds row f.key f.column raw) :
    f.valueTruth registry row raw = .yes := by
  have hnegates : Alternative.negates raw.toList = false := h.literal.positive
  have hpart : Alternative.partTruth (f.kind registry) row f.key f.column raw.toList = .yes := by
    rw [Alternative.partTruth, hnegates, h.literal.literalOf_eq]
    obtain ⟨hnull, hcell⟩ | ⟨hnull, -, htruth⟩ := h.found
    · rw [if_pos hnull, hcell]
      rfl
    · rw [hnull, if_neg Bool.false_ne_true, htruth]
      rfl
  rw [valueTruth, h.literal.parts_eq]
  simp [hpart, Alternative.excludes, hnegates]

/-- A field refuses no filter value that it finds. -/
theorem not_isRefused_of_finds {params : Params}
    (h : ∀ raw, params.get? f.key = some raw → (f.kind registry).Finds row f.key f.column raw) :
    ¬f.IsRefused registry params := by
  rintro ⟨part, hpart, e, hnull, hread⟩
  unfold parts at hpart
  cases hraw : params.get? f.key with
  | none =>
    rw [hraw] at hpart
    cases hpart
  | some raw =>
    obtain ⟨hliteral, hfound⟩ := h raw hraw
    rw [hraw] at hpart
    simp only [hliteral.parts_eq, List.mem_singleton] at hpart
    subst hpart
    rw [hliteral.literalOf_eq] at hnull hread
    obtain ⟨hnull', -⟩ | ⟨-, ⟨x, hx⟩, -⟩ := hfound
    · rw [hnull] at hnull'
      cases hnull'
    · rw [hread] at hx
      cases hx

/-- Parameters that every field finds compile to a predicate that is true of the row. -/
theorem exists_compile_of_finds {fs : List Field} {params : Params}
    (h : ∀ f ∈ fs, ∀ raw, params.get? f.key = some raw →
      (f.kind registry).Finds row f.key f.column raw) :
    ∃ p, compile registry fs params = .ok p ∧ p.truth row = .yes := by
  cases hcompile : compile registry fs params with
  | error e =>
    -- the first field with a fault would refuse its value
    obtain ⟨f, part, hfault⟩ := filters_eq_error_iff.mp (compile_eq_error_iff_filters.mp hcompile)
    exact absurd hfault.first_field.holds
      (not_isRefused_of_finds (h f hfault.first_field.mem))
  | ok p =>
    obtain ⟨bs, ps, hgives, hpredicates, rfl⟩ := compile_eq_ok_iff.mp hcompile
    have hcontributes : ∀ f ∈ fs.filter (contributes params), f.contributes params = true :=
      fun f hf => (List.mem_filter.mp hf).2
    have hyes : ∀ f ∈ fs.filter (contributes params), f.truth registry params row = .yes := by
      intro f hf
      obtain ⟨hf, hcontributes⟩ := List.mem_filter.mp hf
      rw [truth]
      cases hraw : params.get? f.key with
      | none => simp [contributes, hraw] at hcontributes
      | some raw => exact valueTruth_of_finds (h f hf raw hraw)
    refine ⟨_, rfl, ?_⟩
    -- the predicate asks of the row what the fields ask of it together
    rw [Predicate.truth_allOf, map_truth_of_gives hcontributes hgives hpredicates row]
    rw [Truth.all_eq_yes_iff]
    intro t ht
    obtain ⟨f, hf, rfl⟩ := List.mem_map.mp ht
    exact hyes f hf

end Field

end FilterQuery
