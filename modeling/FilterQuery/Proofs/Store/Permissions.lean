import FilterQuery.Proofs.Identifier.Hyphenated
import FilterQuery.Proofs.Store.Constraints

namespace FilterQuery

/-!
# Effective permissions

A user has a permission over an access control that is linked to both.  There may be several
such access controls, and each link may be repeated, so a join over the links finds the same
permission of the same user more than once.  Each time it finds the same row, since a key
identifies the permission; so one row is left of them.

* `Store.Grants` — a user and a permission with an access control between them;
* `Store.mem_effectivePermissions` — the rows that the join finds;
* `Store.effectivePermissions_eq_grants` — one row for each user and permission.
-/

/-! ### Identifiers of pairs -/

/-- Whether a value is the text of an identifier in the hyphenated form. -/
def Cell.isHyphenated : Cell → Bool
  | .text t => (Uuid.readHyphenated t).isOk
  | _ => false

theorem Cell.exists_of_isHyphenated {v : Cell} (h : v.isHyphenated = true) :
    ∃ t, v = .text t ∧ t.toList.length = 36 := by
  cases v with
  | text t =>
    have hform : Uuid.IsHyphenated t := Uuid.exists_readHyphenated_iff.mp (isOk_eq_true_iff.mp h)
    exact ⟨t, rfl, (Uuid.isHyphenated_iff.mp hform).length_eq.symm⟩
  | null => cases h
  | integer n => cases h
  | real x => cases h

/-- Different pairs of identifiers have different texts. -/
theorem Store.pairText_inj {a b a' b' : Cell} (ha : a.isHyphenated = true)
    (hb : b.isHyphenated = true) (ha' : a'.isHyphenated = true) (hb' : b'.isHyphenated = true)
    (h : pairText a b = pairText a' b') : a = a' ∧ b = b' := by
  obtain ⟨s, rfl, hs⟩ := Cell.exists_of_isHyphenated ha
  obtain ⟨t, rfl, -⟩ := Cell.exists_of_isHyphenated hb
  obtain ⟨s', rfl, hs'⟩ := Cell.exists_of_isHyphenated ha'
  obtain ⟨t', rfl, -⟩ := Cell.exists_of_isHyphenated hb'
  have htexts : s ++ "_" ++ t = s' ++ "_" ++ t' := Cell.text.inj h
  have hlists := congrArg String.toList htexts
  simp only [String.toList_append, List.append_assoc] at hlists
  obtain ⟨hfirst, hrest⟩ := List.append_inj hlists (hs.trans hs'.symm)
  have hlast := (List.append_inj hrest rfl).2
  rw [String.toList_inj.mp hfirst, String.toList_inj.mp hlast]
  exact ⟨rfl, rfl⟩

/-! ### Rows -/

/-- The user and the permission that a row is about. -/
def Row.grantEnds (row : Row) : Cell × Cell := (row.cell "usr_id", row.cell "per_id")

namespace Store

variable {s : Store}

/-- Some access control is linked to both a user and a permission. -/
def Grants (s : Store) (user permission : Row) : Prop :=
  ∃ control ∈ s.rowsOf "access_controls",
    (∃ link ∈ s.rowsOf "users_access_controls", link.cell "usr_id" = user.cell "usr_id" ∧
      link.cell "aco_id" = control.cell "aco_id") ∧
    ∃ grant ∈ s.rowsOf "access_controls_permissions",
      grant.cell "per_id" = permission.cell "per_id" ∧
      grant.cell "aco_id" = control.cell "aco_id"

instance (s : Store) (user permission : Row) : Decidable (s.Grants user permission) :=
  inferInstanceAs (Decidable (∃ control ∈ s.rowsOf "access_controls", _))

/-- The values of the row about a user and a permission. -/
def grantCells (user permission : Row) : List Cell :=
  [pairText (user.cell "usr_id") (permission.cell "per_id"), user.cell "usr_id",
    permission.cell "per_id", permission.cell "entity", permission.cell "action",
    permission.cell "lib_id", permission.cell "insert_date", permission.cell "update_date"]

/-- The rows of the effective permissions are those about a user who is granted a permission. -/
theorem mem_effectivePermissions (hs : ∀ t ∈ Schema.tables, s.Keeps t) {cells : List Cell} :
    cells ∈ s.effectivePermissions.rows ↔
      ∃ user ∈ s.rowsOf "users", ∃ permission ∈ s.rowsOf "permissions",
        s.Grants user permission ∧ cells = grantCells user permission := by
  simp only [effectivePermissions, mem_distinct, List.mem_flatMap, List.mem_map, mem_joined]
  constructor
  · rintro ⟨link, hlink, grant, ⟨hgrant, -, hcontrol⟩, permission, ⟨hpermission, -, hper⟩, rfl⟩
    -- the links of the join name a user and an access control
    obtain ⟨user, huser, husr⟩ := exists_linked hs
      (show Schema.IsLink "users_access_controls" "usr_id" "users" "usr_id" by decide) hlink
    obtain ⟨control, hmem, haco⟩ := exists_linked hs
      (show Schema.IsLink "users_access_controls" "aco_id" "access_controls" "aco_id" by decide)
      hlink
    refine ⟨user, huser, permission, hpermission, ⟨control, hmem, ⟨link, hlink, husr.symm,
      haco.symm⟩, grant, hgrant, hper.symm, hcontrol.trans haco.symm⟩, ?_⟩
    rw [grantCells, husr]
  · rintro ⟨user, -, permission, hpermission, ⟨control, hmem, ⟨link, hlink, husr, haco⟩, grant,
      hgrant, hper, haco'⟩, rfl⟩
    -- keys are never absent, so no join leaves out a link
    have hcontrols : s.IsKey "access_controls" "aco_id" := isKey_of_keeps hs (by decide)
    have hpermissions : s.IsKey "permissions" "per_id" := isKey_of_keeps hs (by decide)
    refine ⟨link, hlink, grant, ⟨hgrant, ?_, haco'.trans haco.symm⟩, permission,
      ⟨hpermission, ?_, hper.symm⟩, ?_⟩
    · rw [haco]
      exact hcontrols.cell_ne_null hmem
    · rw [hper]
      exact hpermissions.cell_ne_null hpermission
    · rw [grantCells, husr]

/-- The row about a user and a permission. -/
def grantRow (s : Store) (user permission : Row) : Row :=
  s.effectivePermissions.row (grantCells user permission)

theorem mem_allRows_effectivePermissions (hs : ∀ t ∈ Schema.tables, s.Keeps t) {row : Row} :
    row ∈ s.effectivePermissions.allRows ↔
      ∃ user ∈ s.rowsOf "users", ∃ permission ∈ s.rowsOf "permissions",
        s.Grants user permission ∧ row = s.grantRow user permission := by
  unfold Relation.allRows
  simp only [List.mem_map, mem_effectivePermissions hs]
  constructor
  · rintro ⟨_, ⟨user, huser, permission, hpermission, hgrants, rfl⟩, rfl⟩
    exact ⟨user, huser, permission, hpermission, hgrants, rfl⟩
  · rintro ⟨user, huser, permission, hpermission, hgrants, rfl⟩
    exact ⟨_, ⟨user, huser, permission, hpermission, hgrants, rfl⟩, rfl⟩

/-- What tells users and permissions apart is different in all rows: the values of a row depend on
    nothing else, and of equal rows one is left. -/
theorem nodup_map_effectivePermissions (hs : ∀ t ∈ Schema.tables, s.Keeps t) {β : Type}
    {f : Row → β}
    (hf : ∀ user ∈ s.rowsOf "users", ∀ permission ∈ s.rowsOf "permissions",
      ∀ user' ∈ s.rowsOf "users", ∀ permission' ∈ s.rowsOf "permissions",
      f (s.grantRow user permission) = f (s.grantRow user' permission') →
        user.cell "usr_id" = user'.cell "usr_id" ∧
          permission.cell "per_id" = permission'.cell "per_id") :
    (s.effectivePermissions.allRows.map f).Nodup := by
  have hkey : s.IsKey "permissions" "per_id" := isKey_of_keeps hs (by decide)
  rw [Relation.allRows, List.map_map]
  have hrows : s.effectivePermissions.rows.Nodup := nodup_distinct _
  refine hrows.map_on ?_
  intro cells hcells cells' hcells' heq
  obtain ⟨user, huser, permission, hpermission, -, rfl⟩ := (mem_effectivePermissions hs).mp hcells
  obtain ⟨user', huser', permission', hpermission', -, rfl⟩ :=
    (mem_effectivePermissions hs).mp hcells'
  obtain ⟨husr, hper⟩ := hf user huser permission hpermission user' huser' permission' hpermission'
    heq
  -- the key stands for the whole permission, with all that the row shows of it
  obtain rfl := hkey.eq_of_cell_eq hpermission hpermission' hper
  unfold grantCells
  rw [husr]

/-- The view with the name of the effective permissions. -/
theorem eq_effectivePermissions_of_view? {r : Relation}
    (h : s.view? "users_permissions_view" = some r) : r = s.effectivePermissions := by
  obtain ⟨hname, -⟩ | ⟨-, rfl⟩ | ⟨hname, -⟩ := view?_eq_some h
  · exact absurd hname (by decide)
  · rfl
  · exact absurd hname (by decide)

/-- **No loss, no duplicate.** Where the constraints of the schema hold, the effective permissions
    have one row for each user and permission with an access control between them, and no other;
    the row shows the permission.  Where users and permissions have identifiers in the hyphenated
    form, so that the identifier of a pair can be taken apart, it is different in all rows. -/
theorem effectivePermissions_eq_grants (hs : ∀ t ∈ Schema.tables, s.Keeps t) {r : Relation}
    (hview : s.view? "users_permissions_view" = some r) :
    (r.allRows.map Row.grantEnds).Nodup ∧
      (∀ u p, (u, p) ∈ r.allRows.map Row.grantEnds ↔
        ∃ user ∈ s.rowsOf "users", ∃ permission ∈ s.rowsOf "permissions",
          user.cell "usr_id" = u ∧ permission.cell "per_id" = p ∧ s.Grants user permission) ∧
      (∀ row ∈ r.allRows, ∃ permission ∈ s.rowsOf "permissions",
        permission.cell "per_id" = row.cell "per_id" ∧
          ∀ column ∈ ["entity", "action", "lib_id", "insert_date", "update_date"],
            row.cell column = permission.cell column) ∧
      ((∀ v ∈ s.values "users" "usr_id", v.isHyphenated = true) →
        (∀ v ∈ s.values "permissions" "per_id", v.isHyphenated = true) →
          (r.allRows.map fun row => row.cell "usp_id").Nodup) := by
  obtain rfl := eq_effectivePermissions_of_view? hview
  refine ⟨?_, ?_, ?_, ?_⟩
  · apply nodup_map_effectivePermissions hs
    intro user _ permission _ user' _ permission' _ heq
    exact Prod.mk.inj heq
  · intro u p
    simp only [List.mem_map, mem_allRows_effectivePermissions hs]
    constructor
    · rintro ⟨_, ⟨user, huser, permission, hpermission, hgrants, rfl⟩, hends⟩
      obtain ⟨rfl, rfl⟩ := Prod.mk.inj hends
      exact ⟨user, huser, permission, hpermission, rfl, rfl, hgrants⟩
    · rintro ⟨user, huser, permission, hpermission, rfl, rfl, hgrants⟩
      exact ⟨_, ⟨user, huser, permission, hpermission, hgrants, rfl⟩, rfl⟩
  · intro row hrow
    obtain ⟨user, -, permission, hpermission, -, rfl⟩ :=
      (mem_allRows_effectivePermissions hs).mp hrow
    refine ⟨permission, hpermission, rfl, ?_⟩
    intro column hcolumn
    simp only [List.mem_cons, List.not_mem_nil, or_false] at hcolumn
    obtain rfl | rfl | rfl | rfl | rfl := hcolumn <;> rfl
  · intro husers hpermissions
    apply nodup_map_effectivePermissions hs
    intro user huser permission hpermission user' huser' permission' hpermission' heq
    exact pairText_inj (husers _ (List.mem_map_of_mem huser))
      (hpermissions _ (List.mem_map_of_mem hpermission)) (husers _ (List.mem_map_of_mem huser'))
      (hpermissions _ (List.mem_map_of_mem hpermission')) heq

/-- A user in two groups that both have a permission, in one of them twice: the user has one row
    about it, and none about a permission of neither group. -/
theorem effectivePermissions_eq_grants_twice :
    let date : String × Cell := ("insert_date", .text "2024-01-01 00:00:00")
    let user := "00000000-0000-0000-0000-00000000000a"
    let granted := "00000000-0000-0000-0000-00000000000b"
    let other := "00000000-0000-0000-0000-00000000000c"
    let control (id : String) : String × List (String × Cell) :=
      ("access_controls", [("aco_id", .text id), ("name", .text id), ("type", .text "GROUP"), date])
    let permission (id : String) : String × List (String × Cell) :=
      ("permissions", [("per_id", .text id), ("entity", .text "users"), ("action", .text "UPDATE"),
        date])
    let joins (id : String) : String × List (String × Cell) :=
      ("users_access_controls", [("usr_id", .text user), ("aco_id", .text id), date])
    let grants (id : String) : String × List (String × Cell) :=
      ("access_controls_permissions", [("aco_id", .text id), ("per_id", .text granted), date])
    let s := withRows [("users", [("usr_id", .text user), ("login", .text "ann"), date]),
      control "x", control "y", permission granted, permission other, joins "x", joins "x",
      joins "y", grants "x", grants "y"]
    (∀ t ∈ Schema.tables, s.Keeps t) ∧ ∃ r, s.view? "users_permissions_view" = some r ∧
      (r.allRows.map Row.grantEnds).count (.text user, .text granted) = 1 ∧
      (.text user, .text other) ∉ r.allRows.map Row.grantEnds ∧
      (r.allRows.map fun row => row.cell "usp_id").Nodup := by
  intro date user granted other control permission joins grants s
  have hkeeps := (built_withRows _ : s.Built).keeps
  have hs : "users_permissions_view" ∈ s.views ∧
      (∃ row ∈ s.rowsOf "users", ∃ row' ∈ s.rowsOf "permissions",
        row.cell "usr_id" = .text user ∧ row'.cell "per_id" = .text granted ∧ s.Grants row row') ∧
      (¬∃ row ∈ s.rowsOf "users", ∃ row' ∈ s.rowsOf "permissions",
        row.cell "usr_id" = .text user ∧ row'.cell "per_id" = .text other ∧ s.Grants row row') ∧
      (∀ v ∈ s.values "users" "usr_id", v.isHyphenated = true) ∧
      ∀ v ∈ s.values "permissions" "per_id", v.isHyphenated = true := by decide +kernel
  obtain ⟨hviews, hgranted, hother, husers, hpermissions⟩ := hs
  have hview : s.view? "users_permissions_view" = some s.effectivePermissions := by
    rw [view?, if_neg (not_not.mpr hviews)]
    rfl
  obtain ⟨hnodup, hpairs, -, hids⟩ := effectivePermissions_eq_grants hkeeps hview
  refine ⟨hkeeps, s.effectivePermissions, hview, ?_, ?_, hids husers hpermissions⟩
  · exact List.count_eq_one_of_mem hnodup ((hpairs _ _).mpr hgranted)
  · intro hmem
    exact hother ((hpairs _ _).mp hmem)

end Store

end FilterQuery
