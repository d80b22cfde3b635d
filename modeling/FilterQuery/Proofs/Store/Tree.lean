import FilterQuery.Proofs.Store.Closure
import FilterQuery.Proofs.Store.Constraints

namespace FilterQuery

/-!
# The tree of access controls

The links of the tree may be arranged in any way: in chains, in diamonds, repeated, from an
access control to itself, in cycles.  As long as they lead from access controls to access
controls, the tree has one row for each pair of access controls that a path of links joins.

* `Store.IsTreeRow` — what a row of the tree shows;
* `Store.exists_treeRows_eq` — each pair that the recursive query finds gives one row;
* `Store.tree_eq_closure` — the rows of the tree are the pairs with a path between them.
-/

/-- The pair of access controls that a row of the tree is about. -/
def Row.treeEnds (row : Row) : Cell × Cell := (row.cell "aco_id", row.cell "parent")

namespace Store

variable {s : Store}

/-- A row of the tree shows the names and types of its two access controls, and whether they
    are linked. -/
structure IsTreeRow (s : Store) (row : Row) : Prop where
  current : ∃ control ∈ s.rowsOf "access_controls", control.cell "aco_id" = row.cell "aco_id" ∧
    control.cell "name" = row.cell "name" ∧ control.cell "type" = row.cell "type"
  parent : ∃ control ∈ s.rowsOf "access_controls", control.cell "aco_id" = row.cell "parent" ∧
    control.cell "name" = row.cell "parent_name" ∧ control.cell "type" = row.cell "parent_type"
  direct : row.cell "direct" = .integer (if row.treeEnds ∈ s.treeLinks then 1 else 0)

/-- The links of the tree lead from access controls to access controls. -/
def LinksControls (s : Store) : Prop :=
  ∀ link ∈ s.treeLinks, link.1 ∈ s.values "access_controls" "aco_id" ∧
    link.2 ∈ s.values "access_controls" "aco_id"

/-- The tables that are made by migrations and insertions have links of this kind. -/
theorem linksControls_of_keeps (hs : ∀ t ∈ Schema.tables, s.Keeps t) : s.LinksControls := by
  intro link hlink
  obtain ⟨row, hrow, rfl⟩ := List.mem_map.mp hlink
  obtain ⟨current, hcurrent, hcell⟩ := exists_linked hs
    (show Schema.IsLink "access_controls_tree" "current" "access_controls" "aco_id" by decide) hrow
  obtain ⟨parent, hparent, hcell'⟩ := exists_linked hs
    (show Schema.IsLink "access_controls_tree" "parent" "access_controls" "aco_id" by decide) hrow
  exact ⟨List.mem_map.mpr ⟨current, hcurrent, hcell⟩, List.mem_map.mpr ⟨parent, hparent, hcell'⟩⟩

/-! ### Rows of the tree -/

/-- The rows of the tree for one pair that the recursive query finds. -/
def treeRows (s : Store) (entry : (Cell × Cell) × Bool) : List Row :=
  ((s.joined "access_controls" "aco_id" entry.1.1).flatMap fun current =>
    (s.joined "access_controls" "aco_id" entry.1.2).map fun parent =>
      [pairText entry.1.1 entry.1.2, current.cell "aco_id", current.cell "type",
        current.cell "name", parent.cell "aco_id", parent.cell "name", parent.cell "type",
        .integer (if entry.2 then 1 else 0)]).map s.tree.row

theorem allRows_tree (s : Store) : s.tree.allRows = (closure s.treeLinks).flatMap s.treeRows :=
  List.map_flatMap

/-- A path of links leads from an access control to an access control. -/
theorem LinksControls.of_transGen (h : s.LinksControls) {a b : Cell}
    (hpath : Relation.TransGen (fun a b => (a, b) ∈ s.treeLinks) a b) :
    (∃ control ∈ s.rowsOf "access_controls", control.cell "aco_id" = a) ∧
      ∃ control ∈ s.rowsOf "access_controls", control.cell "aco_id" = b := by
  obtain ⟨next, hfirst, -⟩ := Relation.TransGen.head'_iff.mp hpath
  obtain ⟨last, -, hlast⟩ := Relation.TransGen.tail'_iff.mp hpath
  exact ⟨List.mem_map.mp (h _ hfirst).1, List.mem_map.mp (h _ hlast).2⟩

/-- A pair that the recursive query finds gives one row. -/
theorem exists_treeRows_eq (hkey : s.IsKey "access_controls" "aco_id") (hlinks : s.LinksControls)
    {entry : (Cell × Cell) × Bool} (hentry : entry ∈ closure s.treeLinks) :
    ∃ row, s.treeRows entry = [row] ∧ row.treeEnds = entry.1 ∧ s.IsTreeRow row := by
  obtain ⟨⟨a, b⟩, direct⟩ := entry
  obtain ⟨hpath, rfl⟩ := mem_closure.mp hentry
  obtain ⟨⟨current, hcurrent, rfl⟩, parent, hparent, rfl⟩ := hlinks.of_transGen hpath
  unfold treeRows
  -- each of the two joins is by a key, so it finds one access control
  rw [hkey.joined_eq hcurrent, hkey.joined_eq hparent]
  refine ⟨_, rfl, rfl, ⟨current, hcurrent, rfl, rfl, rfl⟩, ⟨parent, hparent, rfl, rfl, rfl⟩, ?_⟩
  show Cell.integer (if decide (_ ∈ s.treeLinks) = true then 1 else 0) =
    .integer (if (current.cell "aco_id", parent.cell "aco_id") ∈ s.treeLinks then 1 else 0)
  simp only [decide_eq_true_eq]

/-- The rows of the tree are about the pairs that the recursive query finds, one about each. -/
theorem map_treeEnds_tree (hkey : s.IsKey "access_controls" "aco_id") (hlinks : s.LinksControls) :
    s.tree.allRows.map Row.treeEnds = (closure s.treeLinks).map Prod.fst := by
  calc s.tree.allRows.map Row.treeEnds
      = (closure s.treeLinks).flatMap fun entry => (s.treeRows entry).map Row.treeEnds := by
        rw [allRows_tree, List.map_flatMap]
    _ = (closure s.treeLinks).flatMap fun entry => [entry.1] := by
        apply List.flatMap_congr
        intro entry hentry
        obtain ⟨row, hrow, hends, -⟩ := exists_treeRows_eq hkey hlinks hentry
        rw [hrow, List.map_singleton, hends]
    _ = (closure s.treeLinks).map Prod.fst := List.map_eq_flatMap.symm

/-- The view with the name of the tree. -/
theorem eq_tree_of_view? {r : Relation} (h : s.view? "access_controls_tree_view" = some r) :
    r = s.tree := by
  obtain ⟨hname, -⟩ | ⟨hname, -⟩ | ⟨-, rfl⟩ := view?_eq_some h
  · exact absurd hname (by decide)
  · exact absurd hname (by decide)
  · rfl

/-- **Transitive closure.** Let access controls have keys, and links lead from access controls to
    access controls.  Then the recursion behind the tree takes no steps without end and runs to
    where there is no further one, and the tree has one row for each pair that a path of links
    joins, and no other; the row shows the names and types of the two, and whether one of the
    links is theirs. -/
theorem tree_eq_closure (hkey : s.IsKey "access_controls" "aco_id") (hlinks : s.LinksControls)
    {r : Relation} (hview : s.view? "access_controls_tree_view" = some r) :
    (WellFounded fun next q : Recursion s.treeLinks => q.step? = some next) ∧
      Relation.ReflTransGen (fun q next : Recursion s.treeLinks => q.step? = some next)
        (.start s.treeLinks) (Recursion.start s.treeLinks).run ∧
      (Recursion.start s.treeLinks).run.step? = none ∧
      (r.allRows.map Row.treeEnds).Nodup ∧
      (∀ a b, (a, b) ∈ r.allRows.map Row.treeEnds ↔
        Relation.TransGen (fun a b => (a, b) ∈ s.treeLinks) a b) ∧
      ∀ row ∈ r.allRows, s.IsTreeRow row := by
  obtain rfl := eq_tree_of_view? hview
  have hends := map_treeEnds_tree hkey hlinks
  refine ⟨Recursion.wellFounded_step _, Recursion.steps_run _, Recursion.step?_run _, ?_, ?_, ?_⟩
  · rw [hends]
    exact nodup_closure _
  · intro a b
    rw [hends, List.mem_map]
    constructor
    · rintro ⟨⟨ends, direct⟩, hentry, rfl⟩
      exact (mem_closure.mp hentry).1
    · intro hpath
      exact ⟨((a, b), decide ((a, b) ∈ s.treeLinks)), mem_closure.mpr ⟨hpath, rfl⟩, rfl⟩
  · intro row hrow
    rw [allRows_tree] at hrow
    obtain ⟨entry, hentry, hrow⟩ := List.mem_flatMap.mp hrow
    obtain ⟨only, hrows, -, hshows⟩ := exists_treeRows_eq hkey hlinks hentry
    rw [hrows] at hrow
    obtain rfl := List.mem_singleton.mp hrow
    exact hshows

/-- Two access controls above one another, by links of which one is repeated, and a third above
    itself: the first has a row with itself, by the way over the second. -/
theorem tree_eq_closure_cycle :
    let control (id name : String) : String × List (String × Cell) :=
      ("access_controls", [("aco_id", .text id), ("name", .text name), ("type", .text "GROUP"),
        ("insert_date", .text "2024-01-01 00:00:00")])
    let link (current parent : String) : String × List (String × Cell) :=
      ("access_controls_tree", [("current", .text current), ("parent", .text parent),
        ("insert_date", .text "2024-01-01 00:00:00")])
    let s := withRows [control "a" "Ants", control "b" "Bees", control "c" "Cats", link "a" "b",
      link "b" "a", link "a" "b", link "c" "c", link "b" "unknown"]
    s.treeLinks = [(.text "a", .text "b"), (.text "b", .text "a"), (.text "a", .text "b"),
        (.text "c", .text "c")] ∧
      s.IsKey "access_controls" "aco_id" ∧ s.LinksControls ∧
      ∃ r, s.view? "access_controls_tree_view" = some r ∧ ∃ row ∈ r.allRows,
        row.treeEnds = (.text "a", .text "a") ∧ row.cell "direct" = .integer 0 := by
  intro control link s
  have hkeeps := (built_withRows _ : s.Built).keeps
  have hkey : s.IsKey "access_controls" "aco_id" := isKey_of_keeps hkeeps (by decide)
  have hcontrols := linksControls_of_keeps hkeeps
  have hs : s.treeLinks = [(.text "a", .text "b"), (.text "b", .text "a"), (.text "a", .text "b"),
      (.text "c", .text "c")] ∧ "access_controls_tree_view" ∈ s.views := by decide +kernel
  obtain ⟨hlinks, hviews⟩ := hs
  have hview : s.view? "access_controls_tree_view" = some s.tree := by
    rw [view?, if_neg (not_not.mpr hviews)]
    rfl
  obtain ⟨-, -, -, -, hpaths, hrows⟩ := tree_eq_closure hkey hcontrols hview
  have hup : (Cell.text "a", Cell.text "b") ∈ s.treeLinks := by simp [hlinks]
  have hdown : (Cell.text "b", Cell.text "a") ∈ s.treeLinks := by simp [hlinks]
  have hnot : (Cell.text "a", Cell.text "a") ∉ s.treeLinks := by simp [hlinks]
  obtain ⟨row, hrow, hends⟩ := List.mem_map.mp ((hpaths _ _).mpr (.tail (.single hup) hdown))
  refine ⟨hlinks, hkey, hcontrols, s.tree, hview, row, hrow, hends, ?_⟩
  rw [(hrows row hrow).direct, hends, if_neg hnot]

end Store

end FilterQuery
