import FilterQuery.Entity.Row
import FilterQuery.Proofs.Filter.Meaning
import FilterQuery.Proofs.Filter.Refusal

namespace FilterQuery

/-!
# Strict enumerations

A field of an enumeration is filtered strictly or by its category.  Strictly, only the names of
the members are literals; by category, every text is one, and the column is converted to a text
before it is compared.

* `Alternative.IsForeign` — an alternative that names no member;
* `FieldFilter.read_strict_eq_error_iff` — a value is refused for the first of these;
* `Parsed.IsOf.enumeration`, `FilterKind.literalTruth_strict` — what is read strictly is read by
  category too, and asks the same of a column of texts;
* `FieldFilter.read_strict` — the two ways to filter agree, with each other and with the rows
  that are read; the registry chooses between them by the type of the field.
-/

/-! ### Members -/

namespace Enumeration

/-- The member that is found by a name is one of the members, and has this name. -/
theorem of_ofName?_eq_some {e : Enumeration} {name : String} {m : Member}
    (h : e.ofName? name = some m) : m ∈ e.members ∧ m.name = name := by
  have hname := List.find?_some (p := fun m : Member => m.name == name) h
  exact ⟨List.mem_of_find?_eq_some h, beq_iff_eq.mp hname⟩

theorem read_eq_error_iff {e : Enumeration} {key literal : String} {err : FilterError} :
    e.read key literal = .error err ↔
      literal ∉ e.names ∧ err = .invalidMember key e.typeName literal := by
  rw [read]
  split <;> simp_all [eq_comm]

/-- A column is read as a member exactly where it holds the name of one. -/
theorem exists_ofCell_iff (e : Enumeration) (s : String) :
    (∃ v, (ValueType.enumeration e).ofCell (.text s) = .ok v) ↔ s ∈ e.names := by
  rw [ValueType.ofCell, ValueType.ofStoredText]
  split
  · next h => exact iff_of_true ⟨_, rfl⟩ h
  · next h => exact iff_of_false nofun h

end Enumeration

/-! ### Refusing -/

/-- An alternative that neither asks for an absent value nor names a member. -/
def Alternative.IsForeign (e : Enumeration) (a : Alternative) : Prop :=
  a.isNull = false ∧ a.literal ∉ e.names

instance (e : Enumeration) (a : Alternative) : Decidable (a.IsForeign e) :=
  inferInstanceAs (Decidable (_ ∧ _))

theorem Alternative.parse_strict_eq_error_iff {e : Enumeration} {key : String} {a : Alternative}
    {err : FilterError} :
    a.parse ((FilterKind.strict e).readLiteral key) = .error err ↔
      a.IsForeign e ∧ err = .invalidMember key e.typeName a.literal := by
  rw [parse, IsForeign, and_assoc]
  cases a.isNull with
  | true => simp
  | false =>
    rw [if_neg Bool.false_ne_true, ← Enumeration.read_eq_error_iff]
    show Except.map _ (Except.map _ (e.read key a.literal)) = _ ↔ _
    cases e.read key a.literal <;> simp [Except.map]

/-- A value is refused for the first of its alternatives that names no member. -/
theorem FieldFilter.read_strict_eq_error_iff {e : Enumeration} {key : String}
    {raw : Option String} {err : FilterError} :
    read (.strict e) key raw = .error err ↔
      ∃ a, IsFirst (Alternative.IsForeign e) (Alternative.split raw) a ∧
        err = .invalidMember key e.typeName a.literal := by
  have hforeign : (fun a => ∃ err,
      Alternative.parse ((FilterKind.strict e).readLiteral key) a = .error err) =
        Alternative.IsForeign e := by
    ext a
    constructor
    · rintro ⟨err, h⟩
      exact (Alternative.parse_strict_eq_error_iff.mp h).1
    · intro h
      exact ⟨_, Alternative.parse_strict_eq_error_iff.mpr ⟨h, rfl⟩⟩
  rw [read_eq_error_iff_split, hforeign]
  apply exists_congr
  intro a
  rw [Alternative.parse_strict_eq_error_iff]
  exact and_congr_right fun hfirst => and_iff_right hfirst.holds

/-- A value is refused exactly where one of its alternatives names no member. -/
theorem FieldFilter.exists_read_strict_eq_error_iff {e : Enumeration} {key : String}
    {raw : Option String} :
    (∃ err, read (.strict e) key raw = .error err) ↔
      ∃ a ∈ Alternative.split raw, a.IsForeign e := by
  simp only [read_strict_eq_error_iff, ← exists_isFirst_iff]
  constructor
  · rintro ⟨-, a, hfirst, -⟩
    exact ⟨a, hfirst⟩
  · rintro ⟨a, hfirst⟩
    exact ⟨_, a, hfirst, rfl⟩

/-! ### Reading by category -/

/-- What is read strictly is read by category, as the same. -/
theorem Parsed.IsOf.enumeration {e : Enumeration} {key : String} {part : List Char}
    {v : Parsed String} (h : @IsOf (.strict e) key part v) : @IsOf .enumeration key part v := by
  obtain ⟨hnull, hv⟩ | ⟨hnull, op, x, hread, hv⟩ := isOf_iff.mp h
  · exact isOf_iff.mpr (.inl ⟨hnull, hv⟩)
  · rw [FilterKind.readLiteral, Enumeration.read] at hread
    split at hread
    · obtain ⟨rfl, rfl⟩ := hread
      exact isOf_iff.mpr (.inr ⟨hnull, _, _, rfl, hv⟩)
    · cases hread

/-- Whether a column of a row holds a text or nothing.  A column that prefers numbers keeps no
    text that looks like one. -/
def Row.HoldsText (row : Row) (column : String) : Prop :=
  row.cell column = .null ∨ ∃ s, row.cell column = .text s ∧
    (row.affinity column = .numeric → Cell.numberOf? s = none)

theorem Cell.holds_numberOf? {t : String} {c : Cell} (h : numberOf? t = some c) (s : String) :
    (Cell.text s).holds Ordering.isEq c = .no := by
  rw [numberOf?] at h
  split at h
  · obtain rfl := Option.some.inj h
    rfl
  · obtain ⟨d, -, rfl⟩ := Option.map_eq_some_iff.mp h
    rfl

/-- A column of texts is equal to a text exactly where its conversion to a text is. -/
theorem Expr.holds_asText {row : Row} {column : String} (h : row.HoldsText column) (t : String) :
    (Expr.asText (.column column)).holds row Ordering.isEq (.text t) =
      (Expr.column column).holds row Ordering.isEq (.text t) := by
  obtain hnull | ⟨s, hs, hnumber⟩ := h
  · -- nothing is not equal to anything, however it is converted
    have hleft : (Expr.asText (.column column)).cell row = .null := by
      rw [cell, cell, hnull]
      rfl
    have hright : (Expr.column column).cell row = .null := hnull
    have hunknown {e : Expr} (he : e.cell row = .null) :
        e.holds row Ordering.isEq (.text t) = .unknown := by
      rw [holds, he]
      cases e.affinity row <;> rfl
    rw [hunknown hleft, hunknown hright]
  · have hleft : (Expr.asText (.column column)).cell row = .text s := by
      rw [cell, cell, hs]
      rfl
    rw [holds_text hleft rfl (show Affinity.text ≠ .numeric by decide)]
    by_cases haffinity : row.affinity column = .numeric
    · -- a text that looks like a number is converted, but then it is not the stored one
      have hcell : (Expr.column column).cell row = .text s := hs
      have hpreference : (Expr.column column).affinity row = .numeric := haffinity
      rw [holds, hcell, hpreference]
      show _ = Cell.holds _ (.text s) (Cell.toNumeric (.text t))
      rw [Cell.toNumeric]
      cases ht : Cell.numberOf? t with
      | none => rfl
      | some c =>
        have hne : s ≠ t := by
          rintro rfl
          rw [hnumber haffinity] at ht
          cases ht
        have hcompare : (compare s t).isEq = false := by
          rw [Bool.eq_false_iff, Ne, Ordering.isEq_iff_eq_eq, Std.compare_eq_iff_eq]
          exact hne
        show Truth.ofBool (compare s t).isEq = Cell.holds _ (.text s) c
        rw [Cell.holds_numberOf? ht, hcompare]
        rfl
    · have hcell : (Expr.column column).cell row = .text s := hs
      rw [holds_text hcell rfl haffinity]

/-- What a literal asks strictly of a column of texts, it asks by category. -/
theorem FilterKind.literalTruth_strict {row : Row} {column : String} (h : row.HoldsText column)
    (e : Enumeration) (key literal : String) :
    (strict e).literalTruth row key column literal =
      enumeration.literalTruth row key column literal := by
  rw [literalTruth, literalTruth, Expr.holds_asText h]

theorem Alternative.partTruth_strict {row : Row} {column : String} (h : row.HoldsText column)
    (e : Enumeration) (key : String) (part : List Char) :
    partTruth (.strict e) row key column part = partTruth .enumeration row key column part := by
  rw [partTruth, partTruth, FilterKind.literalTruth_strict h]

namespace FieldFilter

/-- A value that is read strictly is read by category, as the same list of alternatives, and the
    two filters have predicates with the same truth. -/
theorem read_enumeration_of_strict {e : Enumeration} {key raw : String} {f : FieldFilter}
    (h : read (.strict e) key (some raw) = .ok (some f)) :
    ∃ vs : List (Parsed String), f = ⟨.strict e, key, vs⟩ ∧
      read .enumeration key (some raw) = .ok (some ⟨.enumeration, key, vs⟩) ∧
      ∀ column, ∃ p q, predicate ⟨.strict e, key, vs⟩ column = .ok p ∧
        predicate ⟨.enumeration, key, vs⟩ column = .ok q ∧
        ∀ row : Row, row.HoldsText column → p.truth row = q.truth row := by
  obtain ⟨hcontributes, vs, rfl, hstrict⟩ := read_eq_ok_some_iff.mp h
  have hlenient : List.Forall₂ (@Parsed.IsOf .enumeration key) (Alternative.parts raw) vs :=
    hstrict.imp fun _ _ => Parsed.IsOf.enumeration
  refine ⟨vs, rfl, read_eq_ok_some_iff.mpr ⟨hcontributes, vs, rfl, hlenient⟩, fun column => ?_⟩
  obtain ⟨p, hp⟩ := exists_predicate_of_isOf hstrict column
  obtain ⟨q, hq⟩ := exists_predicate_of_isOf hlenient column
  refine ⟨p, q, hp, hq, fun row hrow => ?_⟩
  have hparts := (Alternative.parts_ne_nil_iff raw).mpr hcontributes
  -- part by part, the two predicates ask the same
  rw [truth_predicate hstrict hparts hp row, truth_predicate hlenient hparts hq row,
    if_neg (by simp), if_neg (by simp)]
  apply congrArg Truth.any
  exact List.map_congr_left fun part _ => Alternative.partTruth_strict hrow e key part

end FieldFilter

/-! ### Registries -/

namespace Registry

theorem mem_entries_register {r : Registry} {e old : Enumeration} :
    old ∈ (r.register e).entries ↔ old ∈ r.entries ∨ old = e := by
  rw [register, List.mem_append, List.mem_filter, List.mem_singleton, bne_iff_ne]
  tauto

/-- A registry holds the enumerations that were registered. -/
theorem mem_entries_ofList {es : List Enumeration} {e : Enumeration} :
    e ∈ (ofList es).entries ↔ e ∈ es := by
  -- by induction from the end, where the last one was registered
  induction es using List.reverseRecOn with
  | nil => exact Iff.rfl
  | append_singleton es last ih =>
    rw [List.mem_append, List.mem_singleton, ← ih, ← mem_entries_register, ofList, List.foldl_concat]
    rfl

end Registry

namespace Field

variable {es : List Enumeration} {f : Field}

/-- A field of a registered enumeration is filtered strictly. -/
theorem kind_of_registered {e : Enumeration} (he : e ∈ es) (htype : f.type = .enumeration e) :
    f.kind (.ofList es) = .strict e := by
  rw [kind, htype, Registry.lookup?_enumeration, if_pos (Registry.mem_entries_ofList.mpr he)]

/-- A field of another type is filtered by its category. -/
theorem kind_of_not_registered (h : ∀ e ∈ es, f.type ≠ .enumeration e) :
    f.kind (.ofList es) = .ofCategory f.category := by
  have hlookup : (Registry.ofList es).lookup? f.type = none := by
    cases htype : f.type with
    | enumeration e =>
      rw [Registry.lookup?_enumeration, if_neg]
      rw [Registry.mem_entries_ofList]
      exact fun he => h e he htype
    | text | integer | boolean | identifier | timestamp => rfl
  rw [kind, hlookup]

end Field

/-! ### Strict filters -/

/-- **Strict enumerations.** A value is refused strictly exactly where one of its alternatives,
    other than `null`, is not the name of a member, with the first of these in the error.  The
    names of members are those that a member is found by, and those that a column is read from.
    What is read strictly is read by category as the same list of alternatives, and the
    predicates of the two have the same truth where the column holds a text or nothing.  Fields
    of registered types are filtered strictly, whatever their category, and all others by
    category. -/
theorem FieldFilter.read_strict (e : Enumeration) (key : String) (raw : Option String) :
    ((∃ err, read (.strict e) key raw = .error err) ↔
      ∃ a ∈ Alternative.split raw, a.IsForeign e) ∧
    (∀ err, read (.strict e) key raw = .error err ↔
      ∃ a, IsFirst (Alternative.IsForeign e) (Alternative.split raw) a ∧
        err = .invalidMember key e.typeName a.literal) ∧
    (∀ literal, (literal ∈ e.names ↔ (e.ofName? literal).isSome = true) ∧
      (literal ∈ e.names ↔ ∃ v, (ValueType.enumeration e).ofCell (.text literal) = .ok v) ∧
      ∀ m, e.ofName? literal = some m → m ∈ e.members ∧ m.name = literal) ∧
    (read (.strict e) key raw = .ok none → read .enumeration key raw = .ok none) ∧
    (∀ f, read (.strict e) key raw = .ok (some f) →
      ∃ vs : List (Parsed String), f = ⟨.strict e, key, vs⟩ ∧
        read .enumeration key raw = .ok (some ⟨.enumeration, key, vs⟩) ∧
        ∀ column, ∃ p q, predicate ⟨.strict e, key, vs⟩ column = .ok p ∧
          predicate ⟨.enumeration, key, vs⟩ column = .ok q ∧
          ∀ row : Row, row.HoldsText column → p.truth row = q.truth row) ∧
    ∀ (es : List Enumeration) (params : Params) (f : Field) (value : String),
      params.get? f.key = some value →
        (∀ e' ∈ es, f.type = .enumeration e' → f.filter? (.ofList es) params =
          (read (.strict e') f.key (some value)).map fun o => o.map (⟨f, ·⟩)) ∧
        ((∀ e' ∈ es, f.type ≠ .enumeration e') → f.filter? (.ofList es) params =
          (read (.ofCategory f.category) f.key (some value)).map fun o => o.map (⟨f, ·⟩)) := by
  refine ⟨exists_read_strict_eq_error_iff, fun err => read_strict_eq_error_iff, ?_, ?_, ?_, ?_⟩
  · intro literal
    exact ⟨(e.ofName?_isSome_iff literal).symm, (e.exists_ofCell_iff literal).symm,
      fun m => Enumeration.of_ofName?_eq_some⟩
  · intro h
    cases raw with
    | none => rfl
    | some raw =>
      rw [read_eq_ok_none_iff] at h ⊢
      exact h
  · intro f h
    cases raw with
    | none => cases h
    | some raw => exact read_enumeration_of_strict h
  · intro es params f value hvalue
    constructor
    · intro e' he' htype
      rw [Field.filter?, hvalue, Field.kind_of_registered he' htype]
    · intro h
      rw [Field.filter?, hvalue, Field.kind_of_not_registered h]

/-- A member that cannot be asked for, as its name is `null`, and one whose name begins like a
    negation.  The first name in other letters is refused. -/
theorem FieldFilter.read_strict_shade :
    let shade : Enumeration :=
      ⟨"Shade", [⟨"Red", "RED"⟩, ⟨"Nothing", "null"⟩, ⟨"NotRed", "not_red"⟩, ⟨"Summer", "été"⟩]⟩
    let plain : Enumeration := ⟨"Shade", [⟨"Red", "RED"⟩]⟩
    let f : Field := ⟨"shade", "shade", .text, .enumeration shade⟩
    let row : Row := ⟨fun _ => .text "été", fun _ => .numeric⟩
    read (.strict shade) "shade" (some "RED|not_not_red|red|Red") =
      .error (.invalidMember "shade" "Shade" "red") ∧
    read .enumeration "shade" (some "||") = .ok none ∧
    (∃ vs p q, read .enumeration "shade" (some "not_RED|null|not_not_red") =
        .ok (some ⟨.enumeration, "shade", vs⟩) ∧
      predicate ⟨.strict shade, "shade", vs⟩ "shade" = .ok p ∧
      predicate ⟨.enumeration, "shade", vs⟩ "shade" = .ok q ∧
      p.truth row = q.truth row ∧ q.truth row = .yes) ∧
    f.filter? (.ofList [plain, shade]) ⟨[("shade", "red")]⟩ =
      .error (.invalidMember "shade" "Shade" "red") ∧
    ∃ o, f.filter? (.ofList [plain]) ⟨[("shade", "red")]⟩ = .ok o := by
  intro shade plain f row
  obtain ⟨-, hrefused, -⟩ := read_strict shade "shade" (some "RED|not_not_red|red|Red")
  obtain ⟨-, -, -, hnone, -⟩ := read_strict shade "shade" (some "||")
  obtain ⟨-, -, -, -, hsome, hregistry⟩ :=
    read_strict shade "shade" (some "not_RED|null|not_not_red")
  obtain ⟨vs, hf, hread, htruth⟩ := hsome _ rfl
  obtain rfl := eq_of_heq (FieldFilter.mk.inj hf).2.2
  obtain ⟨p, q, hp, hq, hsame⟩ := htruth "shade"
  have hregistered := hregistry [plain, shade] ⟨[("shade", "red")]⟩ f "red" rfl
  have hother := hregistry [plain] ⟨[("shade", "red")]⟩ f "red" rfl
  refine ⟨?_, hnone rfl, ⟨_, p, q, hread, hp, hq, hsame row (.inr ⟨"été", rfl, ?_⟩), ?_⟩, ?_, ?_⟩
  · exact (hrefused _).mpr ⟨⟨.equals, false, "red"⟩,
      ⟨[⟨.equals, false, "RED"⟩, ⟨.equals, true, "not_red"⟩], [⟨.equals, false, "Red"⟩],
        by decide, by decide, by decide⟩, rfl⟩
  · exact fun _ => by decide
  · obtain rfl := Except.ok.inj hq
    decide
  · rw [hregistered.1 shade (by decide) rfl]
    rfl
  · rw [hother.2 (by decide)]
    exact ⟨_, rfl⟩

end FilterQuery
