import FilterQuery.Entity.Declaration
import FilterQuery.Proofs.Steps

namespace FilterQuery

/-!
# What is read off an accepted declaration

The options of a declaration are read one after the other.  What comes of them can be said
without the reading: of a key that is given twice the last value counts, and options of
different keys do not touch each other.

* `DeclaredOption.last?` — the text that a key is set to last;
* `AttributeOptions.eq_of_foldlM` — the options of an attribute, from a lemma for one of them;
* `AttributeDeclaration.derived` — what an accepted attribute adds to its entity;
* `EntityDeclaration.attributes_of_derive` — an accepted entity has what its attributes add;
* `MemberDeclaration.member`, `EnumDeclaration.eq_of_derive` — an accepted enumeration.
-/

/-! ### Options -/

namespace DeclaredOption

/-- The text that an option sets a key to. -/
def textOf? (key : String) (o : DeclaredOption) : Option String :=
  if o.key = key then o.text.toOption else none

/-- The text that a key is set to last. -/
def last? (key : String) (os : List DeclaredOption) : Option String :=
  (os.filterMap (textOf? key)).getLast?

/-- Whether one of the options has the key. -/
def mentions (key : String) (os : List DeclaredOption) : Bool := os.any (·.key == key)

/-- What is set later counts. -/
theorem last?_cons (key : String) (o : DeclaredOption) (os : List DeclaredOption) :
    last? key (o :: os) = (last? key os).or (o.textOf? key) :=
  getLast?_filterMap_cons (textOf? key) o os

end DeclaredOption

/-! ### Attributes -/

namespace AttributeOptions

/-- An option that is accepted sets what it is the key of, and leaves the rest. -/
theorem eq_of_add {o o' : AttributeOptions} {d : DeclaredOption} (h : o.add d = .ok o') :
    o' = ⟨(d.textOf? "type").or o.category, (d.textOf? "name").or o.key,
      (d.textOf? "column").or o.column, o.embedded || d.key == "flatten"⟩ ∧
      (d.textOf? "type").isSome = (d.key == "type") := by
  unfold add at h
  -- one case for each key that an attribute can have an option of
  split_ifs at h with htype hname hcolumn hflatten hbare
  · obtain ⟨s, hs, rfl⟩ := map_eq_ok_iff.mp h
    simp [DeclaredOption.textOf?, htype, hs, Except.toOption]
  · obtain ⟨s, hs, rfl⟩ := map_eq_ok_iff.mp h
    simp [DeclaredOption.textOf?, hname, hs, Except.toOption]
  · obtain ⟨s, hs, rfl⟩ := map_eq_ok_iff.mp h
    simp [DeclaredOption.textOf?, hcolumn, hs, Except.toOption]
  · obtain rfl := Except.ok.inj h
    simp [DeclaredOption.textOf?, hflatten]

/-- What is read off several options: of each key what is set last, or else what stood there
    before. -/
theorem eq_of_foldlM {ds : List DeclaredOption} {o o' : AttributeOptions}
    (h : ds.foldlM add o = .ok o') :
    o' = ⟨(DeclaredOption.last? "type" ds).or o.category,
      (DeclaredOption.last? "name" ds).or o.key,
      (DeclaredOption.last? "column" ds).or o.column,
      o.embedded || DeclaredOption.mentions "flatten" ds⟩ ∧
      (DeclaredOption.last? "type" ds).isSome = DeclaredOption.mentions "type" ds := by
  induction ds generalizing o with
  | nil =>
    obtain rfl := Except.ok.inj h
    simp [DeclaredOption.last?, DeclaredOption.mentions]
  | cons d ds ih =>
    rw [List.foldlM_cons] at h
    obtain ⟨next, hnext, hrest⟩ := bind_eq_ok_iff.mp h
    obtain ⟨rfl, htype⟩ := eq_of_add hnext
    obtain ⟨rfl, htypes⟩ := ih hrest
    -- the first option counts only for what the others leave as it is
    constructor
    · simp only [DeclaredOption.last?_cons, Option.or_assoc, DeclaredOption.mentions,
        List.any_cons, Bool.or_assoc]
    · rw [DeclaredOption.last?_cons, Option.isSome_or, htypes, htype, Bool.or_comm]
      rfl

end AttributeOptions

namespace AttributeDeclaration

/-- Whether an attribute embeds an entity. -/
def isEmbedded (a : AttributeDeclaration) : Bool := DeclaredOption.mentions "flatten" a.options

/-- Whether an attribute has a filter type. -/
def isFilterable (a : AttributeDeclaration) : Bool := DeclaredOption.mentions "type" a.options

/-- The column of an attribute: the name, unless another column is given. -/
def column (a : AttributeDeclaration) : String :=
  (DeclaredOption.last? "column" a.options).getD (plainName a.name)

/-- The filter key of an attribute: the name in camel case, unless another key is given. -/
def key (a : AttributeDeclaration) : String :=
  (DeclaredOption.last? "name" a.options).getD (Naming.camel (plainName a.name))

/-- The category of an attribute with a filter type. -/
def category? (a : AttributeDeclaration) : Option Category :=
  (DeclaredOption.last? "type" a.options).bind fun s => (Category.ofOption s).toOption

/-- The text by which the type of an attribute is known: the type without blanks. -/
def typeText (a : AttributeDeclaration) : String := TypeText.compact a.type.toList

/-- What an accepted attribute adds to its entity. -/
def derived (a : AttributeDeclaration) : DerivedAttribute :=
  if a.isEmbedded then .embedded a.typeText
  else .column a.column
    (a.category?.map fun category => (a.key, category, TypeText.withoutOption a.type))

/-- An accepted attribute with a filter type has a category, and one that embeds an entity has
    no filter type. -/
theorem eq_of_derive {a : AttributeDeclaration} {x : DerivedAttribute} (h : a.derive = .ok x) :
    x = a.derived ∧ a.category?.isSome = a.isFilterable ∧
      (a.isEmbedded = true → a.isFilterable = false) := by
  obtain ⟨o, ho, hx⟩ := bind_eq_ok_iff.mp h
  obtain ⟨rfl, hfilterable⟩ := AttributeOptions.eq_of_foldlM ho
  simp only [AttributeOptions.none, Option.or_none, Bool.false_or] at hx
  change _ = a.isFilterable at hfilterable
  change (if a.isEmbedded = true then _ else _) = _ at hx
  rw [derived, category?]
  split_ifs at hx ⊢ with hembedded hgiven
  · -- an embedded entity, so that neither a filter type nor a column is given
    obtain ⟨htype, -⟩ := not_or.mp hgiven
    rw [Option.not_isSome_iff_eq_none] at htype
    rw [htype] at hfilterable ⊢
    exact ⟨(Except.ok.inj hx).symm, hfilterable, fun _ => hfilterable.symm⟩
  · cases htype : DeclaredOption.last? "type" a.options with
    | none =>
      rw [htype] at hx hfilterable
      exact ⟨(Except.ok.inj hx).symm, hfilterable, fun h => absurd h hembedded⟩
    | some s =>
      rw [htype] at hx hfilterable
      obtain ⟨category, hcategory, hx⟩ := bind_eq_ok_iff.mp hx
      rw [Option.bind_some, hcategory]
      exact ⟨(Except.ok.inj hx).symm, hfilterable, fun h => absurd h hembedded⟩

end AttributeDeclaration

/-! ### Entities -/

namespace EntityOptions

/-- An option that is accepted sets what it is the key of, and leaves the rest. -/
theorem eq_of_add {o o' : EntityOptions} {d : DeclaredOption} (h : o.add d = .ok o') :
    o' = ⟨(d.textOf? "table").or o.table, (d.textOf? "default_sort").or o.defaultSort⟩ := by
  unfold add at h
  split_ifs at h with htable hsort
  · obtain ⟨s, hs, rfl⟩ := map_eq_ok_iff.mp h
    simp [DeclaredOption.textOf?, htable, hs, Except.toOption]
  · obtain ⟨s, hs, rfl⟩ := map_eq_ok_iff.mp h
    simp [DeclaredOption.textOf?, hsort, hs, Except.toOption]

/-- What is read off several options: of each key what is set last, or else what stood there
    before. -/
theorem eq_of_foldlM {ds : List DeclaredOption} {o o' : EntityOptions}
    (h : ds.foldlM add o = .ok o') :
    o' = ⟨(DeclaredOption.last? "table" ds).or o.table,
      (DeclaredOption.last? "default_sort" ds).or o.defaultSort⟩ := by
  induction ds generalizing o with
  | nil =>
    obtain rfl := Except.ok.inj h
    rfl
  | cons d ds ih =>
    rw [List.foldlM_cons] at h
    obtain ⟨next, hnext, hrest⟩ := bind_eq_ok_iff.mp h
    obtain rfl := eq_of_add hnext
    rw [ih hrest]
    simp only [DeclaredOption.last?_cons, Option.or_assoc]

end EntityOptions

namespace EntityDeclaration

variable {d : EntityDeclaration} {e : DerivedEntity}

/-- An accepted entity has the table that the options and the attributes make. -/
theorem deriveTable_of_derive (h : d.derive = .ok e) :
    deriveTable ⟨DeclaredOption.last? "table" d.options,
      DeclaredOption.last? "default_sort" d.options⟩ e.attributes = .ok e.table := by
  unfold derive at h
  split at h
  · cases h
  · cases h
  · cases h
  · obtain ⟨o, ho, h⟩ := bind_eq_ok_iff.mp h
    obtain ⟨_, -, h⟩ := bind_eq_ok_iff.mp h
    obtain ⟨table, htable, h⟩ := bind_eq_ok_iff.mp h
    obtain rfl := Except.ok.inj h
    obtain rfl := EntityOptions.eq_of_foldlM ho
    simpa [EntityOptions.none] using htable

/-- The attributes of an accepted entity are accepted one by one. -/
theorem mapM_of_derive (h : d.derive = .ok e) :
    d.attributes.mapM AttributeDeclaration.derive = .ok e.attributes := by
  unfold derive at h
  split at h
  · cases h
  · cases h
  · cases h
  · obtain ⟨_, -, h⟩ := bind_eq_ok_iff.mp h
    obtain ⟨xs, hxs, h⟩ := bind_eq_ok_iff.mp h
    obtain ⟨_, -, h⟩ := bind_eq_ok_iff.mp h
    obtain rfl := Except.ok.inj h
    exact hxs

/-- An accepted entity has what its attributes add, in their order. -/
theorem attributes_of_derive (h : d.derive = .ok e) :
    e.attributes = d.attributes.map AttributeDeclaration.derived :=
  eq_map_of_mapM (mapM_of_derive h) fun _ _ _ ha => (AttributeDeclaration.eq_of_derive ha).1

/-- What is made of the attributes of an accepted entity, one after the other. -/
theorem flatMap_of_derive {β : Type} (h : d.derive = .ok e) (f : DerivedAttribute → List β) :
    e.attributes.flatMap f = d.attributes.flatMap fun a => f a.derived := by
  rw [attributes_of_derive h, List.flatMap_map]

theorem exists_derive_of_mem (h : d.derive = .ok e) {a : AttributeDeclaration}
    (ha : a ∈ d.attributes) : ∃ x, a.derive = .ok x := by
  obtain ⟨x, -, hx⟩ := exists_mem_of_forall₂ (mapM_eq_ok_iff.mp (mapM_of_derive h)).flip ha
  exact ⟨x, hx⟩

end EntityDeclaration

/-! ### Members -/

namespace MemberDeclaration

/-- The member that an accepted declaration makes: its name is the label in upper case, unless
    another name is given. -/
def member (m : MemberDeclaration) : Member :=
  ⟨m.label, (DeclaredOption.last? "rename" m.options).getD (Naming.upperSnake m.label)⟩

theorem eq_of_foldlM {ds : List DeclaredOption} {name name' : Option String}
    (h : ds.foldlM rename name = .ok name') :
    name' = (DeclaredOption.last? "rename" ds).or name := by
  induction ds generalizing name with
  | nil =>
    obtain rfl := Except.ok.inj h
    rfl
  | cons d ds ih =>
    rw [List.foldlM_cons] at h
    obtain ⟨next, hnext, hrest⟩ := bind_eq_ok_iff.mp h
    unfold rename at hnext
    split_ifs at hnext with hkey
    obtain ⟨s, hs, rfl⟩ := map_eq_ok_iff.mp hnext
    have htext : d.textOf? "rename" = some s := by
      rw [DeclaredOption.textOf?, if_pos hkey, hs]
      rfl
    rw [ih hrest, DeclaredOption.last?_cons, htext, Option.or_assoc, Option.some_or]

theorem eq_of_derive {m : MemberDeclaration} {x : Member} (h : m.derive = .ok x) :
    x = m.member := by
  unfold derive at h
  split_ifs at h
  obtain ⟨name, hname, rfl⟩ := map_eq_ok_iff.mp h
  rw [eq_of_foldlM hname, Option.or_none, member]

end MemberDeclaration

/-- An accepted enumeration has a member for each that is declared, in their order. -/
theorem EnumDeclaration.eq_of_derive {d : EnumDeclaration} {e : Enumeration}
    (h : d.derive = .ok e) : e = ⟨d.name, d.members.map MemberDeclaration.member⟩ := by
  unfold derive at h
  split_ifs at h
  obtain ⟨members, hmembers, rfl⟩ := map_eq_ok_iff.mp h
  rw [eq_map_of_mapM hmembers fun m _ x => MemberDeclaration.eq_of_derive]

end FilterQuery
