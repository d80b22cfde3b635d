namespace FilterQuery

/-!
# Transitive closure

A link leads from one node to another.  A recursive query finds the pairs of nodes that are
joined by a path of links.  Its rows are connections: two nodes, with a mark on those that
stand for a link itself.  The query begins with the links, takes one connection after the
other out of a queue, and queues those that go one link further, unless they were queued
before.  It comes to an end, since the nodes of links make up a limited number of connections,
however the links are arranged.

* `Recursion.step?` — what the query does with the first connection in its queue;
* `Recursion.run` — the steps of the query to the end;
* `closure` — the pairs that it finds, each once, with a mark on those that are links.
-/

variable {α : Type} [DecidableEq α]

/-- The list without repetitions, each element at its last place. -/
def distinct : List α → List α
  | [] => []
  | a :: as => if a ∈ as then distinct as else a :: distinct as

@[simp] theorem mem_distinct {a : α} {as : List α} : a ∈ distinct as ↔ a ∈ as := by
  induction as with
  | nil => simp [distinct]
  | cons b as ih =>
    rw [distinct]
    split
    · rename_i hb
      rw [ih, List.mem_cons]
      constructor
      · exact Or.inr
      · rintro (rfl | h)
        · exact hb
        · exact h
    · simp [ih]

theorem nodup_distinct (as : List α) : (distinct as).Nodup := by
  induction as with
  | nil => simp [distinct]
  | cons b as ih =>
    rw [distinct]
    split
    · exact ih
    · rename_i hb
      exact List.nodup_cons.mpr ⟨by simpa using hb, ih⟩

/-! ### Connections -/

/-- Two nodes that are joined by a path, and whether this is a single link. -/
structure Connection (α : Type) where
  current : α
  parent : α
  direct : Bool
  deriving DecidableEq

namespace Connection

/-- The two nodes of a connection. -/
def ends (c : Connection α) : α × α := (c.current, c.parent)

/-- The connection of a link. -/
def ofLink (link : α × α) : Connection α := ⟨link.1, link.2, true⟩

/-- The connections that go one link further. -/
def extensions (links : List (α × α)) (c : Connection α) : List (Connection α) :=
  (links.filter fun link => link.1 = c.parent).map fun link => ⟨c.current, link.2, false⟩

/-- All connections from a node that some link leaves to a node that some link reaches. -/
def possible (links : List (α × α)) : List (Connection α) :=
  links.flatMap fun first => links.flatMap fun last =>
    [⟨first.1, last.2, true⟩, ⟨first.1, last.2, false⟩]

omit [DecidableEq α] in
theorem mem_possible {links : List (α × α)} {c : Connection α} :
    c ∈ possible links ↔
      (∃ link ∈ links, link.1 = c.current) ∧ ∃ link ∈ links, link.2 = c.parent := by
  obtain ⟨current, parent, direct⟩ := c
  simp only [possible, List.mem_flatMap, List.mem_cons, List.not_mem_nil, or_false, mk.injEq]
  constructor
  · rintro ⟨first, hfirst, last, hlast, ⟨rfl, rfl, -⟩ | ⟨rfl, rfl, -⟩⟩
    · exact ⟨⟨first, hfirst, rfl⟩, last, hlast, rfl⟩
    · exact ⟨⟨first, hfirst, rfl⟩, last, hlast, rfl⟩
  · rintro ⟨⟨first, hfirst, rfl⟩, last, hlast, rfl⟩
    refine ⟨first, hfirst, last, hlast, ?_⟩
    cases direct with
    | true => exact .inl ⟨rfl, rfl, rfl⟩
    | false => exact .inr ⟨rfl, rfl, rfl⟩

theorem mem_extensions {links : List (α × α)} {c d : Connection α} :
    d ∈ c.extensions links ↔
      d.current = c.current ∧ (c.parent, d.parent) ∈ links ∧ d.direct = false := by
  obtain ⟨current, parent, direct⟩ := d
  simp only [extensions, List.mem_map, List.mem_filter, decide_eq_true_eq, mk.injEq]
  constructor
  · rintro ⟨link, ⟨hlink, hstart⟩, rfl, rfl, rfl⟩
    exact ⟨rfl, hstart ▸ hlink, rfl⟩
  · rintro ⟨rfl, hlink, rfl⟩
    exact ⟨_, ⟨hlink, rfl⟩, rfl, rfl, rfl⟩

end Connection

/-! ### The query -/

/-- A recursive query over links: the connections that it took, in its table, and those that
    wait, in its queue.  No connection is in both, or twice in one of them. -/
structure Recursion (links : List (α × α)) where
  table : List (Connection α)
  queue : List (Connection α)
  possible : ∀ c ∈ queue, c ∈ Connection.possible links
  nodup : (table ++ queue).Nodup

namespace Recursion

variable {links : List (α × α)}

/-- The query before its first step, with the links in its queue. -/
def start (links : List (α × α)) : Recursion links where
  table := []
  queue := distinct (links.map Connection.ofLink)
  possible := by
    intro c hc
    obtain ⟨link, hlink, rfl⟩ := List.mem_map.mp (mem_distinct.mp hc)
    exact Connection.mem_possible.mpr ⟨⟨link, hlink, rfl⟩, link, hlink, rfl⟩
  nodup := nodup_distinct _

/-- The connections that go one link further than a given one and were not found before. -/
def found (r : Recursion links) (c : Connection α) : List (Connection α) :=
  distinct ((c.extensions links).filter fun d => d ∉ r.table ++ r.queue)

theorem mem_found {r : Recursion links} {c d : Connection α} :
    d ∈ r.found c ↔ d ∈ c.extensions links ∧ d ∉ r.table ++ r.queue := by
  simp [found]

/-- Moves the first connection of the queue to the table, and queues those that are found from
    it. -/
def step? (r : Recursion links) : Option (Recursion links) :=
  match hqueue : r.queue with
  | [] => none
  | c :: rest => some {
      table := r.table ++ [c]
      queue := rest ++ r.found c
      possible := by
        intro d hd
        have hmem (e : Connection α) (he : e ∈ c :: rest) := r.possible e (hqueue ▸ he)
        obtain hd | hd := List.mem_append.mp hd
        · exact hmem d (List.mem_cons_of_mem c hd)
        · obtain ⟨hcurrent, hlink, -⟩ := Connection.mem_extensions.mp (mem_found.mp hd).1
          obtain ⟨hfirst, -⟩ := Connection.mem_possible.mp (hmem c List.mem_cons_self)
          exact Connection.mem_possible.mpr ⟨hcurrent ▸ hfirst, _, hlink, rfl⟩
      nodup := by
        have hold : (r.table ++ c :: rest).Nodup := hqueue ▸ r.nodup
        have hall : (r.table ++ [c]) ++ (rest ++ r.found c) =
            (r.table ++ c :: rest) ++ r.found c := by simp
        rw [hall, List.nodup_append]
        refine ⟨hold, nodup_distinct _, ?_⟩
        rintro d hd e he rfl
        exact (mem_found.mp he).2 (hqueue ▸ hd) }

/-- The connections that the query has not taken yet. -/
def remaining (r : Recursion links) : List (Connection α) :=
  (Connection.possible links).filter fun c => c ∉ r.table

/-- What a step does, and that the query is not done where there is one. -/
theorem step?_eq_some {r next : Recursion links} (h : r.step? = some next) :
    ∃ c rest, r.queue = c :: rest ∧ next.table = r.table ++ [c] ∧
      next.queue = rest ++ r.found c := by
  unfold step? at h
  split at h
  · cases h
  · next c rest hqueue =>
    obtain rfl := Option.some.inj h
    exact ⟨c, rest, hqueue, rfl, rfl⟩

theorem step?_eq_none {r : Recursion links} (h : r.step? = none) : r.queue = [] := by
  unfold step? at h
  split at h
  · next hqueue => exact hqueue
  · cases h

/-- Each step leaves fewer connections to take. -/
theorem length_remaining_lt {r next : Recursion links} (h : r.step? = some next) :
    next.remaining.length < r.remaining.length := by
  obtain ⟨c, rest, hqueue, htable, -⟩ := step?_eq_some h
  have hnodup := r.nodup
  rw [hqueue, List.nodup_append] at hnodup
  have hc : c ∈ r.remaining := by
    refine List.mem_filter.mpr ⟨r.possible c (hqueue ▸ List.mem_cons_self), ?_⟩
    refine decide_eq_true fun hmem => ?_
    exact hnodup.2.2 c hmem c List.mem_cons_self rfl
  -- what remains after the step is what remained before it, without the connection taken
  have hnext : next.remaining = r.remaining.filter fun d => d ≠ c := by
    unfold remaining
    rw [List.filter_filter]
    apply List.filter_congr
    intro d _
    rw [htable]
    simp [not_or, and_comm]
  rw [hnext, List.length_filter_lt_length_iff_exists]
  exact ⟨c, hc, by simp⟩

/-- The steps of the query, until its queue is empty. -/
def run (r : Recursion links) : Recursion links :=
  match _ : r.step? with
  | none => r
  | some next => next.run
termination_by r.remaining.length
decreasing_by exact length_remaining_lt ‹_›

end Recursion

/-- The pairs that are joined by a path of links, each once.  A pair has the largest mark of
    its connections. -/
def closure (links : List (α × α)) : List ((α × α) × Bool) :=
  let connections := (Recursion.start links).run.table
  (distinct (connections.map Connection.ends)).map fun ends =>
    (ends, connections.any fun c => c.ends = ends && c.direct)

end FilterQuery
