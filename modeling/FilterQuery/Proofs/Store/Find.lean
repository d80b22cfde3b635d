import FilterQuery.Access.Models
import FilterQuery.Proofs.Filter.Columns
import FilterQuery.Proofs.Store.Schema
import FilterQuery.Store.Select

namespace FilterQuery

/-!
# What filters find

The fields of the entities of access control stand on columns of their tables and views, and
none but numbers is filtered by the number of a row.  So a filter finds the rows on which it
is true.

* `Relation.Serves` — a relation that has the columns of an entity;
* `Store.FollowsSchema.serves` — tables and views of the schema serve their entities;
* `Store.FollowsSchema.find_eq`, `Store.FollowsSchema.find_eq_ok` — what the filters of a
  request find.
-/

/-- A relation serves an entity: its fields are on columns with plain names, and only numbers
    are filtered by the number of a row. -/
def Relation.Serves (r : Relation) (e : Entity) : Prop :=
  ∀ f ∈ e.distinctFields, Search.isName f.column = true ∧ r.hasColumn f.column = true ∧
    (r.isNumber f.column = true → f.category = .number ∧ f.type = .integer)

instance (r : Relation) (e : Entity) : Decidable (r.Serves e) :=
  inferInstanceAs (Decidable (∀ f ∈ e.distinctFields, _ ∧ _ ∧ (_ → _ ∧ _)))

/-- The tables and views of the schema serve the entities that are read from them. -/
theorem Schema.serves : ∀ kind ∈ Access.EntityKind.every, ∀ entry ∈ Schema.relations,
    Text.sameIgnoringCase entry.1 kind.model.table = true →
      entry.2.Serves kind.model.entity := by decide +kernel

namespace Store

variable {s : Store} {kind : Access.EntityKind} {r : Relation}

/-- The table or view of an entity has its columns. -/
theorem FollowsSchema.serves (h : s.FollowsSchema)
    (hr : s.relation? kind.model.table = some r) : r.Serves kind.model.entity := by
  obtain ⟨entry, hentry, hname, heq⟩ := h.exists_mem_relations hr
  have hserves := Schema.serves kind (Access.EntityKind.mem_every kind) entry hentry hname
  -- the columns do not depend on the rows
  rw [heq] at hserves
  exact hserves

variable {registry : Registry} {params : Params} {p : Predicate}

/-- The filters of a request find the rows on which their predicate is true, if its text is
    within the limits of the database. -/
theorem FollowsSchema.find_eq (h : s.FollowsSchema)
    (hp : Field.compile registry kind.model.entity.distinctFields params = .ok p)
    (hr : s.relation? kind.model.table = some r) (tail : String) :
    s.find kind.model.entity p tail =
      if heightLimit kind.model.table < p.height then .error .tooDeep
      else if Search.largestPlaceholder < p.binds.length then .error .placeholder
      else .ok ⟨r.matching p, .tail⟩ := by
  have hserves := h.serves hr
  -- all columns are there, so the clause need not be read from its text
  have hplain : p.isPlain (some r) = true := by
    rw [Predicate.isPlain, List.all_eq_true]
    intro name hname
    obtain ⟨f, hf, rfl⟩ := Field.columns_of_compile hp name hname
    obtain ⟨hname, hcolumn, -⟩ := hserves f hf
    simp [hname, hcolumn]
  -- the numbers of rows are only compared with integers, which are sought as they are
  have hsought : p.sought r = p := by
    apply Field.sought_of_compile hp
    intro f hf hnumber
    obtain ⟨hcategory, htype⟩ := (hserves f hf).2.2 hnumber
    rw [Field.kind, htype, hcategory]
    rfl
  have hr' : s.relation? kind.model.entity.table = some r := hr
  rw [find, hr', if_pos hplain, findPlain, hr']
  simp only [hsought]
  rfl

/-- Only where there is a table or view is anything found. -/
theorem exists_relation_of_find {e : Entity} {tail : String} {found : Found}
    (h : s.find e p tail = .ok found) : ∃ r, s.relation? e.table = some r := by
  cases hr : s.relation? e.table with
  | some r => exact ⟨r, rfl⟩
  | none =>
    rw [find, hr] at h
    split at h
    · rw [findPlain, hr] at h
      split_ifs at h
    · rw [findWritten, hr] at h
      cases hread : Search.Clause.read p.numberedText tail with
      | error error => simp [hread, bind, Except.bind] at h
      | ok clause =>
        simp only [hread, bind, Except.bind, throw, throwThe, MonadExceptOf.throw] at h
        split_ifs at h

/-- What the filters of a request find once, they find in every statement: the rows on which
    their predicate is true. -/
theorem FollowsSchema.find_eq_ok (h : s.FollowsSchema)
    (hp : Field.compile registry kind.model.entity.distinctFields params = .ok p)
    {tail : String} {found : Found} (hfind : s.find kind.model.entity p tail = .ok found) :
    ∃ r, s.relation? kind.model.table = some r ∧
      ∀ tail, s.find kind.model.entity p tail = .ok ⟨r.matching p, .tail⟩ := by
  obtain ⟨r, hr⟩ := exists_relation_of_find hfind
  refine ⟨r, hr, fun tail' => ?_⟩
  rw [h.find_eq hp hr] at hfind ⊢
  split_ifs at hfind ⊢
  rfl

end Store

end FilterQuery
