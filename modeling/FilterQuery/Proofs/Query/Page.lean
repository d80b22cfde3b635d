import FilterQuery.Proofs.Number.Numeral
import FilterQuery.Proofs.Steps
import FilterQuery.Query.Page
import Mathlib.Data.List.Basic

namespace FilterQuery

/-!
# Windows of pages

* `windows_tile` — windows of one size that follow each other make up a list;
* `PageRequest.AsksFor`, `PageRequest.readNumber_eq_ok_iff` — the numbers that parameters ask for;
* `PageRequest.ofParams_eq_ok_iff`, `PageRequest.ofParams_eq_error_iff` — what a page request has
  from the parameters, and for what they are refused;
* `PageRequest.ofParams_insert_page` — the same request for another page;
* `PageRequest.window_offset` — the rows of a page, also where the page is beyond the last one
  that is answered.
-/

/-! ### Windows -/

/-- A window of a list: so many elements behind so many windows of that size. -/
def windowAt {α : Type} (as : List α) (size k : Nat) : List α := (as.drop (k * size)).take size

theorem length_windowAt {α : Type} (as : List α) (size k : Nat) :
    (windowAt as size k).length = min size (as.length - k * size) := by
  rw [windowAt, List.length_take, List.length_drop]

/-- The first windows of a list are its start. -/
theorem flatMap_windowAt {α : Type} (as : List α) (size n : Nat) :
    (List.range n).flatMap (windowAt as size) = as.take (n * size) := by
  induction n with
  | zero => simp
  | succ n ih =>
    rw [List.range_succ, List.flatMap_append, ih, List.flatMap_singleton, Nat.succ_mul,
      List.take_add, windowAt]

/-- As many windows as are begun make up the list. -/
theorem windows_tile {α : Type} (as : List α) {size : Nat} (h : 0 < size) :
    (List.range ((as.length + size - 1) / size)).flatMap (windowAt as size) = as := by
  rw [flatMap_windowAt]
  apply List.take_of_length_le
  have hdiv := Nat.div_add_mod (as.length + size - 1) size
  have hmod := Nat.mod_lt (as.length + size - 1) h
  rw [Nat.mul_comm] at hdiv
  omega

/-- There are not more windows than elements. -/
theorem lt_of_lt_windows {length size k : Nat} (h : 0 < size)
    (hk : k < (length + size - 1) / size) : k < length := by
  have hmul : (k + 1) * size ≤ length + size - 1 := (Nat.le_div_iff_mul_le h).mp hk
  have hle : k ≤ k * size := Nat.le_mul_of_pos_right k h
  rw [Nat.succ_mul] at hmul
  omega

/-! ### Requests -/

/-- Parameters without some keys have the values of the others. -/
theorem Params.get?_foldl_erase (params : Params) (keys : List String) (key : String) :
    (keys.foldl erase params).get? key = if key ∈ keys then none else params.get? key := by
  induction keys generalizing params with
  | nil => simp
  | cons k keys ih =>
    rw [List.foldl_cons, ih, get?_erase]
    by_cases hk : key = k <;> by_cases hkeys : key ∈ keys <;> simp [hk, hkeys]

namespace PageRequest

theorem get?_filterParams (params : Params) (key : String) :
    (filterParams params).get? key = if isReserved key then none else params.get? key := by
  simp [filterParams, Params.get?_foldl_erase, isReserved]

/-- The filters are the same for all pages. -/
theorem filterParams_insert_page (params : Params) (value : String) :
    filterParams (params.insert "page" value) = filterParams params := by
  have herase : (params.insert "page" value).erase "page" = params.erase "page" := by
    simp [Params.insert, Params.erase]
  simp only [filterParams, reservedKeys, List.foldl_cons, herase]

/-- The parameters ask for a number: by a numeral of 64 bits with white space around it, or for none
    where the key has no value. -/
def AsksFor (params : Params) (key : String) (o : Option Int) : Prop :=
  (params.get? key = none ∧ o = none) ∨
    ∃ text n, params.get? key = some text ∧ Bounds.signed64.SaysPadded text n ∧ o = some n

/-- The parameters hold a text for a key that is no such numeral. -/
def IsGarbled (params : Params) (key : String) : Prop :=
  ∃ text, params.get? key = some text ∧ ¬∃ n, Bounds.signed64.SaysPadded text n

theorem readNumber_eq_ok_iff {params : Params} {key : String} {o : Option Int} :
    readNumber params key = .ok o ↔ AsksFor params key o := by
  have hread {text : String} {n : Int} :
      Bounds.signed64.read (Text.trim text) = .ok n ↔ Bounds.signed64.SaysPadded text n := by
    rw [Bounds.read_eq_ok_iff_says (by decide) (by decide), Bounds.says_trim_iff]
  unfold readNumber AsksFor
  cases params.get? key with
  | none => simp [eq_comm]
  | some text =>
    simp only [← hread]
    cases hvalue : Bounds.signed64.read (Text.trim text) with
    | error => simp [hvalue]
    | ok n => simp [hvalue, eq_comm]

theorem readNumber_eq_error_iff {params : Params} {key : String} {e : QueryError} :
    readNumber params key = .error e ↔
      IsGarbled params key ∧ ∃ text, params.get? key = some text ∧
        e = .invalidParameter key text := by
  have hread {text : String} :
      (∃ cause, Bounds.signed64.read (Text.trim text) = .error cause) ↔
        ¬∃ n, Bounds.signed64.SaysPadded text n := by
    simp only [Bounds.read_eq_error_iff (b := .signed64) (by decide) (by decide),
      Bounds.says_trim_iff, exists_and_left, exists_eq, and_true]
  unfold readNumber IsGarbled
  cases params.get? key with
  | none => simp
  | some text =>
    simp only [Option.some.injEq, exists_eq_left', ← hread]
    cases Bounds.signed64.read (Text.trim text) <;> simp [eq_comm]

/-- What a request and its filters have from the parameters. -/
theorem ofParams_eq_ok_iff {params filters : Params} {r : PageRequest} :
    ofParams params = .ok (r, filters) ↔
      readNumber params "page" = .ok r.page ∧ readNumber params "count" = .ok r.count ∧
        readText? params "order" = r.order ∧ readText? params "sort" = r.sort ∧
        (∀ s, r.sort = some s → s = "asc" ∨ s = "desc") ∧ filterParams params = filters := by
  obtain ⟨page, count, order, sort⟩ := r
  unfold ofParams
  cases hpage : readNumber params "page" with
  | error e => simp [bind, Except.bind]
  | ok page' =>
    cases hcount : readNumber params "count" with
    | error e => simp [bind, Except.bind]
    | ok count' =>
      cases hsort : readText? params "sort" with
      | none =>
        simp only [bind, Except.bind, pure, Except.pure, Except.ok.injEq, Prod.mk.injEq, mk.injEq]
        grind
      | some s =>
        by_cases hs : s = "asc" ∨ s = "desc"
        · simp only [bind, Except.bind, pure, Except.pure, hs, if_true, Except.ok.injEq,
            Prod.mk.injEq, mk.injEq]
          grind
        · simp only [bind, Except.bind, hs, if_false, throw, throwThe, MonadExceptOf.throw]
          grind

theorem exists_readNumber_iff {params : Params} {key : String} :
    (∃ o, readNumber params key = .ok o) ↔ ¬IsGarbled params key := by
  have herror : (∃ e, readNumber params key = .error e) ↔ IsGarbled params key := by
    simp only [readNumber_eq_error_iff]
    constructor
    · exact fun ⟨_, h, _⟩ => h
    · rintro ⟨text, htext, hnone⟩
      exact ⟨_, ⟨text, htext, hnone⟩, text, htext, rfl⟩
  rw [← herror, ← isOk_eq_true_iff, ← isOk_eq_false_iff, Bool.not_eq_false]

/-- Parameters are refused for the first of the two numbers that is garbled, or else for a direction
    that there is not. -/
theorem ofParams_eq_error_iff {params : Params} {e : QueryError} :
    ofParams params = .error e ↔
      (∃ key, IsFirst (IsGarbled params) ["page", "count"] key ∧
        ∃ text, params.get? key = some text ∧ e = .invalidParameter key text) ∨
      (∀ key ∈ ["page", "count"], ¬IsGarbled params key) ∧
        ∃ s, readText? params "sort" = some s ∧ s ≠ "asc" ∧ s ≠ "desc" ∧ e = .invalidSort s := by
  have hsteps : ofParams params = .error e ↔
      readNumber params "page" = .error e ∨
        (∃ page, readNumber params "page" = .ok page) ∧
          (readNumber params "count" = .error e ∨
            (∃ count, readNumber params "count" = .ok count) ∧
              ∃ s, readText? params "sort" = some s ∧ s ≠ "asc" ∧ s ≠ "desc" ∧
                e = .invalidSort s) := by
    unfold ofParams
    cases readNumber params "page" with
    | error => simp [bind, Except.bind]
    | ok page =>
      cases readNumber params "count" with
      | error => simp [bind, Except.bind]
      | ok count =>
        cases readText? params "sort" with
        | none => simp [bind, Except.bind, pure, Except.pure]
        | some s =>
          by_cases hs : s = "asc" ∨ s = "desc"
          · simp only [bind, Except.bind, pure, Except.pure, hs, if_true]
            grind
          · simp only [bind, Except.bind, hs, if_false, throw, throwThe, MonadExceptOf.throw]
            grind
  have hfirst {key : String} : IsFirst (IsGarbled params) ["page", "count"] key ↔
      (IsGarbled params "page" ∧ key = "page") ∨
        ¬IsGarbled params "page" ∧ IsGarbled params "count" ∧ key = "count" := by
    simp [isFirst_cons_iff, not_isFirst_nil]
  rw [hsteps]
  simp only [exists_readNumber_iff, readNumber_eq_error_iff, hfirst, List.forall_mem_cons]
  grind

/-- The filters of a request are its parameters without the reserved ones. -/
theorem filters_eq_of_ofParams {params filters : Params} {r : PageRequest}
    (h : ofParams params = .ok (r, filters)) : filters = filterParams params := by
  obtain ⟨-, -, -, -, -, hfilters⟩ := ofParams_eq_ok_iff.mp h
  exact hfilters.symm

/-- A request asks for another page where the parameters do. -/
theorem ofParams_insert_page {params filters : Params} {r : PageRequest}
    (h : ofParams params = .ok (r, filters)) {k : Nat} (hk : (k : Int) ≤ Bounds.signed64.high) :
    ofParams (params.insert "page" (toString k)) =
      .ok ({ r with page := some (k : Int) }, filters) := by
  obtain ⟨-, hcount, horder, hsort, hdirection, hfilters⟩ := ofParams_eq_ok_iff.mp h
  have hother {key : String} (hkey : key ≠ "page") :
      (params.insert "page" (toString k)).get? key = params.get? key := by
    rw [Params.get?_insert, if_neg hkey]
  rw [ofParams_eq_ok_iff, filterParams_insert_page]
  refine ⟨?_, ?_, ?_, ?_, hdirection, hfilters⟩
  · rw [readNumber, Params.get?_insert, if_pos rfl]
    simp only [Bounds.read_trim_toString hk]
  · rw [← hcount, readNumber, readNumber, hother (by decide)]
  · rw [← horder, readText?, readText?, hother (by decide)]
  · rw [← hsort, readText?, readText?, hother (by decide)]

/-! ### Pages -/

/-- The number of rows of a page, as a natural number. -/
def rowsPerPage (r : PageRequest) : Nat := r.pageSize.toNat

theorem rowsPerPage_pos (r : PageRequest) : 0 < r.rowsPerPage := by
  have := r.pageSize_bounds
  unfold rowsPerPage
  omega

/-- The page that is answered for the number of a page. -/
theorem pageIndex_some (r : PageRequest) (k : Nat) :
    ({ r with page := some (k : Int) } : PageRequest).pageIndex = min (k : Int) maximumPage := by
  have : (0 : Int) ≤ maximumPage := by decide
  simp only [pageIndex, clamp, Option.getD_some]
  omega

/-- The rows behind an offset are the window of the page: where the page is beyond the last
    one that is answered, both are empty. -/
theorem window_offset {α : Type} (r : PageRequest) (as : List α)
    (hlength : (as.length : Int) ≤ maximumPage) (k : Nat) :
    (as.drop ({ r with page := some (k : Int) } : PageRequest).offset.toNat).take r.rowsPerPage =
      windowAt as r.rowsPerPage k := by
  have hsize := r.rowsPerPage_pos
  have hpage : ((r.rowsPerPage : Nat) : Int) = r.pageSize := Int.toNat_of_nonneg (by
    have := r.pageSize_bounds
    omega)
  have hoffset : ({ r with page := some (k : Int) } : PageRequest).offset =
      min (k : Int) maximumPage * (r.rowsPerPage : Int) := by
    rw [offset, pageIndex_some, hpage]
    rfl
  rw [hoffset]
  by_cases hk : (k : Int) ≤ maximumPage
  · rw [min_eq_left hk, ← Int.natCast_mul, Int.toNat_natCast, windowAt]
  · -- no list has so many elements
    have hlast : as.length ≤ (min (k : Int) maximumPage * (r.rowsPerPage : Int)).toNat := by
      have hle : maximumPage * 1 ≤ maximumPage * (r.rowsPerPage : Int) :=
        Int.mul_le_mul_of_nonneg_left (by omega) (by decide)
      rw [min_eq_right (by omega)]
      omega
    have hbeyond : as.length ≤ k * r.rowsPerPage :=
      le_trans (by omega) (Nat.le_mul_of_pos_right k hsize)
    rw [windowAt, List.drop_of_length_le hlast, List.drop_of_length_le hbeyond]

end PageRequest

end FilterQuery
