import FilterQuery.Proofs.Store.Find
import FilterQuery.Proofs.Store.Permissions
import FilterQuery.Store.Lookup
import Mathlib.Algebra.BigOperators.Group.List.Lemmas
import Mathlib.Algebra.GroupWithZero.Nat

namespace FilterQuery

/-!
# Memberships

The memberships join each link between a user and an access control with both.  Users and
access controls have keys, so a link gives one row; but there may be several links between the
same two, and then as many rows with the same values.

* `Store.IsMembership` — what a row of the memberships shows;
* `Store.map_memberEnds_memberships` — one row for each link;
* `Store.nodup_ids_memberships_iff` — rows have identifiers of their own exactly where no link
  is repeated;
* `Store.memberships_eq_links` — what the memberships hold, and what is counted of them.
-/

/-- The user and the access control that a row is about. -/
def Row.memberEnds (row : Row) : Cell × Cell := (row.cell "usr_id", row.cell "aco_id")

namespace Store

variable {s : Store}

/-- The links between users and access controls. -/
def memberLinks (s : Store) : List (Cell × Cell) :=
  (s.rowsOf "users_access_controls").map Row.memberEnds

/-- A row of the memberships shows a user and an access control, under the text of the two for
    its identifier. -/
structure IsMembership (s : Store) (row : Row) : Prop where
  user : ∃ user ∈ s.rowsOf "users", user.cell "usr_id" = row.cell "usr_id" ∧
    user.cell "email" = row.cell "email" ∧ user.cell "login" = row.cell "login" ∧
    user.cell "name" = row.cell "user_name"
  control : ∃ control ∈ s.rowsOf "access_controls",
    control.cell "aco_id" = row.cell "aco_id" ∧
    control.cell "name" = row.cell "access_control_name" ∧ control.cell "type" = row.cell "type"
  id : row.cell "usa_id" = pairText (row.cell "usr_id") (row.cell "aco_id")

/-! ### Rows -/

/-- The row about a user and an access control. -/
def memberRow (s : Store) (user control : Row) : Row :=
  s.memberships.row [pairText (user.cell "usr_id") (control.cell "aco_id"), user.cell "usr_id",
    user.cell "email", user.cell "login", user.cell "name", control.cell "aco_id",
    control.cell "name", control.cell "type"]

@[simp] theorem memberEnds_memberRow (s : Store) (user control : Row) :
    (s.memberRow user control).memberEnds = (user.cell "usr_id", control.cell "aco_id") := rfl

/-- The rows of the memberships for one link. -/
def memberRows (s : Store) (link : Row) : List Row :=
  ((s.joined "users" "usr_id" (link.cell "usr_id")).flatMap fun user =>
    (s.joined "access_controls" "aco_id" (link.cell "aco_id")).map fun control =>
      [pairText (link.cell "usr_id") (link.cell "aco_id"), user.cell "usr_id",
        user.cell "email", user.cell "login", user.cell "name", control.cell "aco_id",
        control.cell "name", control.cell "type"]).map s.memberships.row

theorem allRows_memberships (s : Store) :
    s.memberships.allRows = (s.rowsOf "users_access_controls").flatMap s.memberRows :=
  List.map_flatMap

/-- A link gives one row, about the user and the access control that it names. -/
theorem exists_memberRows_eq (hs : ∀ t ∈ Schema.tables, s.Keeps t) {link : Row}
    (hlink : link ∈ s.rowsOf "users_access_controls") :
    ∃ user ∈ s.rowsOf "users", ∃ control ∈ s.rowsOf "access_controls",
      s.memberRows link = [s.memberRow user control] ∧
        link.memberEnds = (user.cell "usr_id", control.cell "aco_id") := by
  have husers : s.IsKey "users" "usr_id" := isKey_of_keeps hs (by decide)
  have hcontrols : s.IsKey "access_controls" "aco_id" := isKey_of_keeps hs (by decide)
  obtain ⟨user, huser, husr⟩ := exists_linked hs
    (show Schema.IsLink "users_access_controls" "usr_id" "users" "usr_id" by decide) hlink
  obtain ⟨control, hcontrol, haco⟩ := exists_linked hs
    (show Schema.IsLink "users_access_controls" "aco_id" "access_controls" "aco_id" by decide)
    hlink
  refine ⟨user, huser, control, hcontrol, ?_, Prod.ext husr.symm haco.symm⟩
  unfold memberRows
  -- each of the two joins is by a key, so it finds one row
  rw [← husr, ← haco, husers.joined_eq huser, hcontrols.joined_eq hcontrol]
  rfl

/-- The rows of the memberships are about users and access controls that are linked. -/
theorem exists_of_mem_memberships (hs : ∀ t ∈ Schema.tables, s.Keeps t) {row : Row}
    (hrow : row ∈ s.memberships.allRows) :
    ∃ user ∈ s.rowsOf "users", ∃ control ∈ s.rowsOf "access_controls",
      row = s.memberRow user control := by
  rw [allRows_memberships] at hrow
  obtain ⟨link, hlink, hrow⟩ := List.mem_flatMap.mp hrow
  obtain ⟨user, huser, control, hcontrol, hrows, -⟩ := exists_memberRows_eq hs hlink
  rw [hrows] at hrow
  exact ⟨user, huser, control, hcontrol, List.mem_singleton.mp hrow⟩

theorem isMembership (hs : ∀ t ∈ Schema.tables, s.Keeps t) :
    ∀ row ∈ s.memberships.allRows, s.IsMembership row := by
  intro row hrow
  obtain ⟨user, huser, control, hcontrol, rfl⟩ := exists_of_mem_memberships hs hrow
  exact ⟨⟨user, huser, rfl, rfl, rfl, rfl⟩, ⟨control, hcontrol, rfl, rfl, rfl⟩, rfl⟩

/-- Rows about the same user and access control have the same values. -/
theorem eq_of_memberEnds_eq (hs : ∀ t ∈ Schema.tables, s.Keeps t) {row row' : Row}
    (hrow : row ∈ s.memberships.allRows) (hrow' : row' ∈ s.memberships.allRows)
    (heq : row.memberEnds = row'.memberEnds) : row = row' := by
  have husers : s.IsKey "users" "usr_id" := isKey_of_keeps hs (by decide)
  have hcontrols : s.IsKey "access_controls" "aco_id" := isKey_of_keeps hs (by decide)
  obtain ⟨user, huser, control, hcontrol, rfl⟩ := exists_of_mem_memberships hs hrow
  obtain ⟨user', huser', control', hcontrol', rfl⟩ := exists_of_mem_memberships hs hrow'
  obtain ⟨husr, haco⟩ := Prod.mk.inj heq
  obtain rfl := husers.eq_of_cell_eq huser huser' husr
  obtain rfl := hcontrols.eq_of_cell_eq hcontrol hcontrol' haco
  rfl

/-- The rows of the memberships are about the users and access controls of the links, one about
    those of each. -/
theorem map_memberEnds_memberships (hs : ∀ t ∈ Schema.tables, s.Keeps t) :
    s.memberships.allRows.map Row.memberEnds = s.memberLinks := by
  calc s.memberships.allRows.map Row.memberEnds
      = (s.rowsOf "users_access_controls").flatMap fun link =>
          (s.memberRows link).map Row.memberEnds := by
        rw [allRows_memberships, List.map_flatMap]
    _ = (s.rowsOf "users_access_controls").flatMap fun link => [link.memberEnds] := by
        apply List.flatMap_congr
        intro link hlink
        obtain ⟨user, -, control, -, hrows, hends⟩ := exists_memberRows_eq hs hlink
        rw [hrows, List.map_singleton, hends, memberEnds_memberRow]
    _ = s.memberLinks := List.map_eq_flatMap.symm

/-! ### Identifiers -/

/-- Where users and access controls have identifiers in the hyphenated form, rows have
    identifiers of their own exactly where no link is repeated. -/
theorem nodup_ids_memberships_iff (hs : ∀ t ∈ Schema.tables, s.Keeps t)
    (husers : ∀ v ∈ s.values "users" "usr_id", v.isHyphenated = true)
    (hcontrols : ∀ v ∈ s.values "access_controls" "aco_id", v.isHyphenated = true) :
    (s.memberships.allRows.map fun row => row.cell "usa_id").Nodup ↔ s.memberLinks.Nodup := by
  have hids : (s.memberships.allRows.map fun row => row.cell "usa_id") =
      s.memberLinks.map fun ends => pairText ends.1 ends.2 := by
    rw [← map_memberEnds_memberships hs, List.map_map]
    exact List.map_congr_left fun row hrow => (isMembership hs row hrow).id
  rw [hids]
  -- different links have different texts, as the hyphenated form has a fixed length
  refine ⟨List.Nodup.of_map _, fun hnodup => hnodup.map_on ?_⟩
  have hends (ends : Cell × Cell) (hmem : ends ∈ s.memberLinks) :
      ends.1.isHyphenated = true ∧ ends.2.isHyphenated = true := by
    obtain ⟨link, hlink, rfl⟩ := List.mem_map.mp hmem
    obtain ⟨user, huser, control, hcontrol, -, heq⟩ := exists_memberRows_eq hs hlink
    rw [heq]
    exact ⟨husers _ (List.mem_map_of_mem huser), hcontrols _ (List.mem_map_of_mem hcontrol)⟩
  intro ends hmem ends' hmem' htext
  obtain ⟨husr, haco⟩ := pairText_inj (hends ends hmem).1 (hends ends hmem).2
    (hends ends' hmem').1 (hends ends' hmem').2 htext
  exact Prod.ext husr haco

/-! ### Counts -/

/-- Of rows about the same user and access control, a predicate selects all or none. -/
theorem count_memberEnds_matching (hs : ∀ t ∈ Schema.tables, s.Keeps t) {p : Predicate}
    {ends : Cell × Cell} (hends : ends ∈ (s.memberships.matching p).map Row.memberEnds) :
    ((s.memberships.matching p).map Row.memberEnds).count ends = s.memberLinks.count ends := by
  obtain ⟨row, hrow, rfl⟩ := List.mem_map.mp hends
  obtain ⟨hrow, htruth⟩ := List.mem_filter.mp hrow
  rw [← map_memberEnds_memberships hs, Relation.matching, List.count_eq_countP,
    List.count_eq_countP, List.countP_map, List.countP_map, List.countP_filter]
  apply List.countP_congr
  intro row' hrow'
  simp only [Function.comp_apply, Bool.and_eq_true, beq_iff_eq]
  refine ⟨And.left, fun heq => ⟨heq, ?_⟩⟩
  -- a row about the same two has the same values, so it is selected as well
  rw [eq_of_memberEnds_eq hs hrow' hrow heq]
  exact htruth

/-- A count of rows is that of the links between the users and access controls that they are
    about. -/
theorem length_matching_memberships (hs : ∀ t ∈ Schema.tables, s.Keeps t) (p : Predicate) :
    (s.memberships.matching p).length =
      ((((s.memberships.matching p).map Row.memberEnds).dedup).map
        fun ends => s.memberLinks.count ends).sum := by
  calc (s.memberships.matching p).length
      = ((s.memberships.matching p).map Row.memberEnds).length := (List.length_map _).symm
    _ = ((((s.memberships.matching p).map Row.memberEnds).dedup).map fun ends =>
          ((s.memberships.matching p).map Row.memberEnds).count ends).sum := by
        -- the two sides only compare cells by different instances
        rw [← List.sum_map_count_dedup_eq_length]
        congr!
    _ = _ := by
        congr 1
        apply List.map_congr_left
        intro ends hends
        exact count_memberEnds_matching hs (List.mem_dedup.mp hends)

/-- As many rows are selected as users and access controls exactly where none of these are linked
    more than once. -/
theorem length_matching_eq_iff (hs : ∀ t ∈ Schema.tables, s.Keeps t) (p : Predicate) :
    (s.memberships.matching p).length =
        ((s.memberships.matching p).map Row.memberEnds).dedup.length ↔
      ∀ ends ∈ ((s.memberships.matching p).map Row.memberEnds).dedup,
        s.memberLinks.count ends = 1 := by
  have hnodup : (s.memberships.matching p).length =
        ((s.memberships.matching p).map Row.memberEnds).dedup.length ↔
      ((s.memberships.matching p).map Row.memberEnds).Nodup := by
    rw [← List.length_map (f := Row.memberEnds), ← List.dedup_eq_self]
    constructor
    · exact fun hlength => (List.dedup_sublist _).eq_of_length hlength.symm
    · exact fun heq => (congrArg List.length heq).symm
  rw [hnodup, List.nodup_iff_count_eq_one]
  simp only [List.mem_dedup]
  exact forall₂_congr fun ends hends => by rw [count_memberEnds_matching hs hends]

/-- A view of the schema is found under its name, which no table has. -/
theorem FollowsSchema.relation?_eq_of_view? (h : s.FollowsSchema) {name : String} {r : Relation}
    (hview : s.view? name = some r) : s.relation? name = some r := by
  have hnames : ∀ t ∈ Schema.tables, ∀ view ∈ Schema.views,
      Text.sameIgnoringCase t.name view = false := by decide
  have hname : name ∈ Schema.views := by
    obtain ⟨rfl, -⟩ | ⟨rfl, -⟩ | ⟨rfl, -⟩ := view?_eq_some hview <;> decide
  rw [relation?]
  cases htable : s.table? name with
  | none => exact hview
  | some t =>
    have hother := hnames t.schema (h.schema_mem t (mem_of_table? htable)) name hname
    rw [sameIgnoringCase_of_table? htable] at hother
    cases hother

theorem view?_memberships (h : "users_access_controls_view" ∈ s.views) :
    s.view? "users_access_controls_view" = some s.memberships := by
  rw [view?, if_neg (not_not.mpr h)]
  rfl

/-- **Memberships are links.** Where the constraints of the schema hold, the memberships have one
    row for each link between a user and an access control, in the order of the links, and it
    shows the two; a link that is repeated has a row each time.  So, with identifiers in the
    hyphenated form, the identifier of a row is its own exactly where no link is repeated, and of
    the memberships that filters select, each is counted as often as it is linked. -/
theorem memberships_eq_links (h : s.FollowsSchema) (hs : ∀ t ∈ Schema.tables, s.Keeps t)
    {r : Relation} (hview : s.view? "users_access_controls_view" = some r) :
    r.allRows.map Row.memberEnds = s.memberLinks ∧
      (∀ row ∈ r.allRows, s.IsMembership row) ∧
      ((∀ v ∈ s.values "users" "usr_id", v.isHyphenated = true) →
        (∀ v ∈ s.values "access_controls" "aco_id", v.isHyphenated = true) →
          ((r.allRows.map fun row => row.cell "usa_id").Nodup ↔ s.memberLinks.Nodup)) ∧
      ∀ registry params n,
        s.countMatching registry Access.userAccessControl params = .ok n →
          ∃ p selected,
            Field.compile registry Access.userAccessControl.entity.distinctFields params = .ok p ∧
            selected = ((r.matching p).map Row.memberEnds).dedup ∧
            n = (selected.map fun ends => s.memberLinks.count ends).sum ∧
            (n = selected.length ↔ ∀ ends ∈ selected, s.memberLinks.count ends = 1) := by
  have hrelation := h.relation?_eq_of_view? hview
  obtain rfl : r = s.memberships := by simpa using view?_eq_some hview
  refine ⟨map_memberEnds_memberships hs, isMembership hs, nodup_ids_memberships_iff hs, ?_⟩
  intro registry params n hcount
  obtain ⟨p, hp, hcount⟩ := bind_eq_ok_iff.mp hcount
  rw [mapError_eq_ok_iff] at hp hcount
  have hfound : n = (s.memberships.matching p).length := by
    have hp' : Field.compile registry
        Access.EntityKind.userAccessControl.model.entity.distinctFields params = .ok p := hp
    rw [count] at hcount
    cases hfind : s.find Access.userAccessControl.entity p "" with
    | error e => simp [hfind] at hcount
    | ok found =>
      obtain ⟨r, hr, hall⟩ := h.find_eq_ok hp' hfind
      obtain rfl := Option.some.inj (hr.symm.trans hrelation)
      obtain rfl := Except.ok.inj (hfind.symm.trans (hall ""))
      rw [hfind] at hcount
      exact (Except.ok.inj hcount).symm
  refine ⟨p, _, hp, rfl, ?_, ?_⟩
  · rw [hfound, length_matching_memberships hs p]
  · rw [hfound]
    exact length_matching_eq_iff hs p

/-- A store with some links between users and access controls. -/
def ofMemberships (links : List (String × String)) : Store :=
  let date : String × Cell := ("insert_date", .text "2024-01-01 00:00:00")
  withRows <|
    links.map (fun link => ("users", [("usr_id", .text link.1), ("login", .text link.1), date])) ++
    links.map (fun link => ("access_controls", [("aco_id", .text link.2), ("name", .text link.2),
      ("type", .text "GROUP"), date])) ++
    links.map fun link =>
      ("users_access_controls", [("usr_id", .text link.1), ("aco_id", .text link.2), date])

theorem built_ofMemberships (links : List (String × String)) : (ofMemberships links).Built :=
  built_withRows _

/-- A user in two groups, in one of them twice: the memberships have three rows, and all three
    are counted. -/
theorem memberships_eq_links_repeated :
    let user := "00000000-0000-0000-0000-00000000000a"
    let first := "00000000-0000-0000-0000-00000000000b"
    let second := "00000000-0000-0000-0000-00000000000c"
    let s := ofMemberships [(user, first), (user, second), (user, first)]
    s.FollowsSchema ∧ (∀ t ∈ Schema.tables, s.Keeps t) ∧
      ∃ r, s.view? "users_access_controls_view" = some r ∧
        r.allRows.map Row.memberEnds = [(.text user, .text first), (.text user, .text second),
          (.text user, .text first)] ∧
        ¬(r.allRows.map fun row => row.cell "usa_id").Nodup := by
  intro user first second s
  have hbuilt : s.Built := built_ofMemberships _
  have hs : "users_access_controls_view" ∈ s.views ∧
      s.memberLinks = [(.text user, .text first), (.text user, .text second),
        (.text user, .text first)] ∧
      (∀ v ∈ s.values "users" "usr_id", v.isHyphenated = true) ∧
      ∀ v ∈ s.values "access_controls" "aco_id", v.isHyphenated = true := by decide +kernel
  obtain ⟨hviews, hlinks, husers, hcontrols⟩ := hs
  have hview := view?_memberships hviews
  obtain ⟨hrows, -, hids, -⟩ := memberships_eq_links hbuilt.followsSchema hbuilt.keeps hview
  refine ⟨hbuilt.followsSchema, hbuilt.keeps, _, hview, hrows.trans hlinks, ?_⟩
  rw [hids husers hcontrols, hlinks]
  simp

/-- A user who is linked to a group twice is one membership, but has two rows with one
    identifier, and is counted twice. -/
theorem memberships_counted_twice :
    let user := "00000000-0000-0000-0000-00000000000a"
    let group := "00000000-0000-0000-0000-00000000000b"
    let s := ofMemberships [(user, group), (user, group)]
    s.Built ∧ (∀ ends ∈ s.memberLinks, ends = (.text user, .text group)) ∧
      (∃ r, s.view? "users_access_controls_view" = some r ∧
        (r.allRows.map Row.memberEnds).count (.text user, .text group) = 2 ∧
        (r.allRows.map fun row => row.cell "usa_id") =
          List.replicate 2 (pairText (.text user) (.text group))) ∧
      s.countMatching Access.registry Access.userAccessControl .empty = .ok 2 := by
  intro user group s
  have hbuilt : s.Built := built_ofMemberships _
  have hs : "users_access_controls_view" ∈ s.views ∧
      (∀ ends ∈ s.memberLinks, ends = (.text user, .text group)) ∧
      (s.memberships.allRows.map Row.memberEnds).count (.text user, .text group) = 2 ∧
      (s.memberships.allRows.map fun row => row.cell "usa_id") =
        List.replicate 2 (pairText (.text user) (.text group)) ∧
      s.countMatching Access.registry Access.userAccessControl .empty = .ok 2 := by
    decide +kernel
  obtain ⟨hviews, hlinks, hends, hids, hcount⟩ := hs
  have hview := view?_memberships hviews
  exact ⟨hbuilt, hlinks, ⟨_, hview, hends, hids⟩, hcount⟩

end Store

end FilterQuery
