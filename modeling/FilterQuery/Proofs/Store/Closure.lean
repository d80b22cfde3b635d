import FilterQuery.Store.Closure
import Mathlib.Logic.Relation

namespace FilterQuery

/-!
# What a recursive query finds

A recursive query stands for the least set of connections that has the links and with each
connection those that go one link further (`Connection.Derived`).

* `Recursion.wellFounded_step` — the query comes to an end, from wherever it begins;
* `Recursion.steps_run`, `Recursion.step?_run` — a run goes from its beginning to the end;
* `Recursion.Invariant` — what each of its steps keeps;
* `Recursion.mem_table_run` — at the end its table has that set, and nothing else;
* `mem_closure` — the pairs that are found are those with a path of links between them.
-/

variable {α : Type} [DecidableEq α] {links : List (α × α)}

/-! ### Derived connections -/

/-- The connections that a recursive query stands for. -/
inductive Connection.Derived (links : List (α × α)) : Connection α → Prop
  | link {link : α × α} (h : link ∈ links) : Derived links (.ofLink link)
  | further {c d : Connection α} (h : Derived links c) (hd : d ∈ c.extensions links) :
    Derived links d

namespace Connection.Derived

/-- The ends of a derived connection are joined by a path. -/
theorem transGen {c : Connection α} (h : c.Derived links) :
    Relation.TransGen (fun a b => (a, b) ∈ links) c.current c.parent := by
  induction h with
  | link h => exact .single h
  | further _ hd ih =>
    obtain ⟨hcurrent, hlink, -⟩ := mem_extensions.mp hd
    rw [hcurrent]
    exact ih.tail hlink

/-- A path is derived, with one mark or the other. -/
theorem exists_of_transGen {a b : α} (h : Relation.TransGen (fun a b => (a, b) ∈ links) a b) :
    ∃ direct, Derived links ⟨a, b, direct⟩ := by
  induction h with
  | single h => exact ⟨true, link h⟩
  | tail _ h ih =>
    obtain ⟨direct, hderived⟩ := ih
    exact ⟨false, further hderived (mem_extensions.mpr ⟨rfl, h, rfl⟩)⟩

/-- The mark of a derived connection stands for a link. -/
theorem ends_mem {c : Connection α} (h : c.Derived links) (hdirect : c.direct = true) :
    c.ends ∈ links := by
  cases h with
  | link h => exact h
  | further _ hd =>
    obtain ⟨-, -, hfalse⟩ := mem_extensions.mp hd
    rw [hfalse] at hdirect
    cases hdirect

end Connection.Derived

/-! ### Steps and runs -/

namespace Recursion

/-- From no state can a recursive query take steps without end. -/
theorem wellFounded_step (links : List (α × α)) :
    WellFounded fun next r : Recursion links => r.step? = some next := by
  apply Subrelation.wf (r := InvImage (· < ·) fun r : Recursion links => r.remaining.length)
  · exact length_remaining_lt
  · exact InvImage.wf _ Nat.lt_wfRel.wf

theorem run_of_step?_eq_none {r : Recursion links} (h : r.step? = none) : r.run = r := by
  rw [run]
  split
  · rfl
  · next hsome =>
    rw [hsome] at h
    cases h

theorem run_of_step?_eq_some {r next : Recursion links} (h : r.step? = some next) :
    r.run = next.run := by
  rw [run]
  split
  · next hnone =>
    rw [hnone] at h
    cases h
  · next hsome =>
    rw [Option.some.inj (hsome.symm.trans h)]

/-- A run takes one step after the other. -/
theorem steps_run (r : Recursion links) :
    Relation.ReflTransGen (fun q next => q.step? = some next) r r.run := by
  induction r using run.induct with
  | case1 r hstep =>
    rw [run_of_step?_eq_none hstep]
  | case2 r next hstep ih =>
    rw [run_of_step?_eq_some hstep]
    exact .head hstep ih

/-- A run is over when there is no further step. -/
theorem step?_run (r : Recursion links) : r.run.step? = none := by
  induction r using run.induct with
  | case1 r hstep =>
    rw [run_of_step?_eq_none hstep]
    exact hstep
  | case2 r next hstep ih =>
    rw [run_of_step?_eq_some hstep]
    exact ih

/-- The connections that were found are derived, the links are among them, and so is what
    goes one link further than one that was taken. -/
structure Invariant (r : Recursion links) : Prop where
  derived : ∀ c ∈ r.table ++ r.queue, c.Derived links
  links_mem : ∀ link ∈ links, Connection.ofLink link ∈ r.table ++ r.queue
  closed : ∀ c ∈ r.table, ∀ d ∈ c.extensions links, d ∈ r.table ++ r.queue

theorem invariant_start (links : List (α × α)) : (start links).Invariant where
  derived := by
    intro c hc
    obtain ⟨link, hlink, rfl⟩ := List.mem_map.mp (mem_distinct.mp hc)
    exact .link hlink
  links_mem := by
    intro link hlink
    exact mem_distinct.mpr (List.mem_map_of_mem hlink)
  closed := nofun

/-- One step keeps the invariant: it moves one connection and adds those that it finds. -/
theorem Invariant.step {r next : Recursion links} (h : r.Invariant) (hstep : r.step? = some next) :
    next.Invariant := by
  obtain ⟨c, rest, hqueue, htable, hrest⟩ := step?_eq_some hstep
  -- a connection that was found is never lost: it moves from the queue to the table
  have hall (d : Connection α) :
      d ∈ next.table ++ next.queue ↔ d ∈ r.table ++ r.queue ∨ d ∈ r.found c := by
    rw [htable, hrest, hqueue]
    simp [or_assoc]
  have hc : c ∈ r.table ++ r.queue := by
    rw [hqueue]
    simp
  constructor
  · intro d hd
    obtain hd | hd := (hall d).mp hd
    · exact h.derived d hd
    · exact .further (h.derived c hc) (mem_found.mp hd).1
  · intro link hlink
    exact (hall _).mpr (.inl (h.links_mem link hlink))
  · intro d hd e he
    rw [htable] at hd
    apply (hall e).mpr
    obtain hd | hd := List.mem_append.mp hd
    · exact .inl (h.closed d hd e he)
    · obtain rfl := List.mem_singleton.mp hd
      -- what goes further than the connection taken was found before, or is found now
      by_cases hold : e ∈ r.table ++ r.queue
      · exact .inl hold
      · exact .inr (mem_found.mpr ⟨he, hold⟩)

/-- A run keeps the invariant. -/
theorem Invariant.run {r : Recursion links} (h : r.Invariant) : r.run.Invariant := by
  induction r using run.induct with
  | case1 r hstep =>
    rw [run_of_step?_eq_none hstep]
    exact h
  | case2 r next hstep ih =>
    rw [run_of_step?_eq_some hstep]
    exact ih (h.step hstep)

/-- **The least set.** At its end the query has taken the connections that it stands for. -/
theorem mem_table_run {c : Connection α} : c ∈ (start links).run.table ↔ c.Derived links := by
  have hinv := (invariant_start links).run
  have hqueue := step?_eq_none (step?_run (start links))
  constructor
  · intro hc
    exact hinv.derived c (List.mem_append_left _ hc)
  · intro hc
    -- the queue is empty, so what was found was taken, and what goes further was found
    have hmem : c ∈ (start links).run.table ++ (start links).run.queue := by
      induction hc with
      | link h => exact hinv.links_mem _ h
      | further _ hd ih =>
        rw [hqueue, List.append_nil] at ih
        exact hinv.closed _ ih _ hd
    rwa [hqueue, List.append_nil] at hmem

end Recursion

/-! ### Closure -/

/-- No pair is found twice. -/
theorem nodup_closure (links : List (α × α)) : ((closure links).map Prod.fst).Nodup := by
  have hends : (closure links).map Prod.fst =
      distinct ((Recursion.start links).run.table.map Connection.ends) := by
    simp [closure, Function.comp_def]
  rw [hends]
  exact nodup_distinct _

/-- **Transitive closure.** The pairs that are found are those with a path of links between
    them, and the mark is on the links. -/
theorem mem_closure {ends : α × α} {direct : Bool} :
    (ends, direct) ∈ closure links ↔
      Relation.TransGen (fun a b => (a, b) ∈ links) ends.1 ends.2 ∧
        direct = decide (ends ∈ links) := by
  have hpath : ends ∈ (Recursion.start links).run.table.map Connection.ends ↔
      Relation.TransGen (fun a b => (a, b) ∈ links) ends.1 ends.2 := by
    rw [List.mem_map]
    constructor
    · rintro ⟨c, hc, rfl⟩
      exact (Recursion.mem_table_run.mp hc).transGen
    · intro h
      obtain ⟨direct, hderived⟩ := Connection.Derived.exists_of_transGen h
      exact ⟨_, Recursion.mem_table_run.mpr hderived, rfl⟩
  -- of the connections of a pair, only one that stands for a link has a mark
  have hdirect : ((Recursion.start links).run.table.any fun c => c.ends = ends && c.direct) =
      decide (ends ∈ links) := by
    rw [Bool.eq_iff_iff, List.any_eq_true, decide_eq_true_iff]
    constructor
    · rintro ⟨c, hc, hboth⟩
      obtain ⟨hends, hmark⟩ := Bool.and_eq_true_iff.mp hboth
      obtain rfl := of_decide_eq_true hends
      exact (Recursion.mem_table_run.mp hc).ends_mem hmark
    · intro h
      exact ⟨.ofLink ends, Recursion.mem_table_run.mpr (.link h),
        by simp [Connection.ofLink, Connection.ends]⟩
  simp only [closure, List.mem_map, mem_distinct, Prod.mk.injEq]
  constructor
  · rintro ⟨found, hfound, rfl, rfl⟩
    exact ⟨hpath.mp (List.mem_map.mpr hfound), hdirect⟩
  · rintro ⟨htrans, rfl⟩
    exact ⟨ends, List.mem_map.mp (hpath.mpr htrans), rfl, hdirect⟩

end FilterQuery
