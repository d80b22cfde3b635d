import FilterQuery.Proofs.Query.Page

namespace FilterQuery

/-!
# Offsets

The last page that is answered is chosen for the largest page size, so that no offset leaves 64
bits, whatever page and size are asked for.  Up to that page the pages of one size follow each
other without gaps.

* `PageRequest.contains_mul_maximumSize_iff` — the last page is as large as it can be;
* `PageRequest.atPage`, `PageRequest.Shows` — the same request for another page, and the rows that a
  request shows, by their numbers;
* `PageRequest.offset_tiles` — offsets stay within 64 bits, and windows tile the rows.
-/

/-- Numbers whose product is within 64 bits are multiplied in words of 64 bits without an
    overflow. -/
theorem Bounds.toInt_ofInt_mul {m n : Int} (h : signed64.Contains (m * n)) :
    (Int64.ofInt m * Int64.ofInt n).toInt = m * n := by
  obtain ⟨hlow, hhigh⟩ := h
  rw [← Int64.ofInt_mul]
  exact Int64.toInt_ofInt_of_le hlow (Int.lt_of_le_of_lt hhigh (by decide))

namespace PageRequest

/-- A page has an offset within 64 bits for the largest size exactly up to the last page that is
    answered. -/
theorem contains_mul_maximumSize_iff {p : Int} (hp : 0 ≤ p) :
    Bounds.signed64.Contains (p * maximumSize) ↔ p ≤ maximumPage := by
  have hhigh : p * maximumSize ≤ Bounds.signed64.high ↔ p ≤ maximumPage :=
    (Int.le_ediv_iff_mul_le (by decide)).symm
  have hlow : Bounds.signed64.low ≤ p * maximumSize :=
    le_trans (by decide) (mul_nonneg hp (by decide))
  rw [Bounds.Contains, hhigh, and_iff_right hlow]

theorem pageSize_pos (r : PageRequest) : 0 < r.pageSize := by
  have := r.pageSize_bounds
  omega

theorem offset_nonneg (r : PageRequest) : 0 ≤ r.offset :=
  mul_nonneg r.pageIndex_bounds.1 r.pageSize_pos.le

/-- No offset leaves 64 bits: it is at most that of the last page with the largest size. -/
theorem contains_offset (r : PageRequest) : Bounds.signed64.Contains r.offset := by
  obtain ⟨hpage, hlast⟩ := r.pageIndex_bounds
  obtain ⟨-, hsize⟩ := r.pageSize_bounds
  obtain ⟨-, hhigh⟩ := (contains_mul_maximumSize_iff hpage).mpr hlast
  have hle : r.offset ≤ r.pageIndex * maximumSize := mul_le_mul_of_nonneg_left hsize hpage
  exact ⟨le_trans (by decide) r.offset_nonneg, hle.trans hhigh⟩

/-- The same request for another page. -/
def atPage (r : PageRequest) (p : Int) : PageRequest := { r with page := some p }

/-- The request shows the row with a number, counted from zero. -/
def Shows (r : PageRequest) (i : Int) : Prop := r.offset ≤ i ∧ i < r.offset + r.pageSize

variable (r : PageRequest)

theorem offset_atPage (p : Int) : (r.atPage p).offset = clamp 0 maximumPage p * r.pageSize := rfl

/-- A page that is answered has its own offset. -/
theorem offset_atPage_of_mem {p : Int} (hp : 0 ≤ p) (hlast : p ≤ maximumPage) :
    (r.atPage p).offset = p * r.pageSize := by
  rw [offset_atPage, clamp, min_eq_left hlast, max_eq_right hp]

/-- Pages beyond the last have the offset of the last. -/
theorem offset_atPage_of_le {p : Int} (hlast : maximumPage ≤ p) :
    (r.atPage p).offset = (r.atPage maximumPage).offset := by
  rw [offset_atPage, offset_atPage, clamp, clamp, min_eq_right hlast, min_self]

/-- Negative pages have the offset of the first. -/
theorem offset_atPage_of_neg {p : Int} (hp : p < 0) :
    (r.atPage p).offset = (r.atPage 0).offset := by
  have hle : min p maximumPage ≤ 0 := (min_le_left p maximumPage).trans hp.le
  rw [offset_atPage, clamp, max_eq_left hle, zero_mul, offset_atPage_of_mem r le_rfl (by decide),
    zero_mul]

/-- A later page does not have a smaller offset. -/
theorem offset_atPage_le {p p' : Int} (hle : p ≤ p') :
    (r.atPage p).offset ≤ (r.atPage p').offset := by
  have hclamp : clamp 0 maximumPage p ≤ clamp 0 maximumPage p' :=
    max_le_max_left 0 (min_le_min_right maximumPage hle)
  exact mul_le_mul_of_nonneg_right hclamp r.pageSize_pos.le

/-- Of the pages that are answered, one shows a row with a number below the end of the last: the one
    whose number is the quotient by the size. -/
theorem existsUnique_shows {i : Int} (hi : 0 ≤ i) (hend : i < (maximumPage + 1) * r.pageSize) :
    ∃! p, (0 ≤ p ∧ p ≤ maximumPage) ∧ (r.atPage p).Shows i := by
  have hsize := r.pageSize_pos
  have hshows {p : Int} (hp : 0 ≤ p) (hlast : p ≤ maximumPage) :
      (r.atPage p).Shows i ↔ i / r.pageSize = p := by
    rw [Shows, offset_atPage_of_mem r hp hlast, Int.ediv_eq_iff_of_pos hsize]
    rfl
  have hquotient : 0 ≤ i / r.pageSize ∧ i / r.pageSize ≤ maximumPage :=
    ⟨Int.ediv_nonneg hi hsize.le, Int.lt_add_one_iff.mp (Int.ediv_lt_of_lt_mul hsize hend)⟩
  refine ⟨i / r.pageSize, ⟨hquotient, (hshows hquotient.1 hquotient.2).mpr rfl⟩, ?_⟩
  rintro p ⟨⟨hp, hlast⟩, hp'⟩
  exact ((hshows hp hlast).mp hp').symm

/-- **Offsets and windows.** Whatever page and size are asked for, the offset is a number of 64 bits
    that is not negative, and it is what words of 64 bits make of the product.  For a fixed size
    offsets grow with the page, by the size from each page that is answered to the next.  Pages
    beyond the last show the window of the last, negative pages that of the first, and each row up
    to the end of the last window stands in exactly one window. -/
theorem offset_tiles :
    (0 ≤ r.offset ∧ Bounds.signed64.Contains r.offset ∧
      (Int64.ofInt r.pageIndex * Int64.ofInt r.pageSize).toInt = r.offset) ∧
    (∀ p p', p ≤ p' → (r.atPage p).offset ≤ (r.atPage p').offset) ∧
    (∀ p, 0 ≤ p → p < maximumPage →
      (r.atPage (p + 1)).offset = (r.atPage p).offset + r.pageSize) ∧
    (∀ p, maximumPage ≤ p → (r.atPage p).offset = (r.atPage maximumPage).offset) ∧
    (∀ p, p < 0 → (r.atPage p).offset = (r.atPage 0).offset) ∧
    ∀ i, 0 ≤ i → i < (maximumPage + 1) * r.pageSize →
      ∃! p, (0 ≤ p ∧ p ≤ maximumPage) ∧ (r.atPage p).Shows i := by
  refine ⟨⟨r.offset_nonneg, r.contains_offset, Bounds.toInt_ofInt_mul r.contains_offset⟩,
    fun _ _ => r.offset_atPage_le, ?_, fun p => r.offset_atPage_of_le,
    fun p => r.offset_atPage_of_neg, fun i => r.existsUnique_shows⟩
  intro p hp hlast
  rw [offset_atPage_of_mem r hp hlast.le, offset_atPage_of_mem r (by omega) hlast, add_mul, one_mul]

/-- Pages of 200 rows at most, of which 500 are asked for, and the largest page that can be asked
    for: its offset is still within 64 bits, and row 401 stands on the page behind two others. -/
theorem offset_tiles_largest :
    let r : PageRequest := ⟨some 9223372036854775807, some 500, none, none⟩
    r.offset = 9223372036854775800 ∧ Bounds.signed64.Contains r.offset ∧
      (Int64.ofInt r.pageIndex * Int64.ofInt r.pageSize).toInt = r.offset ∧
      r.offset = (r.atPage maximumPage).offset ∧ (r.atPage (-1)).offset = (r.atPage 0).offset ∧
      (r.atPage 3).offset = (r.atPage 2).offset + 200 ∧
      (r.atPage 2).offset ≤ (r.atPage 7).offset ∧
      (r.atPage 2).Shows 401 ∧
      ∀ p, 0 ≤ p → p ≤ maximumPage → (r.atPage p).Shows 401 → p = 2 := by
  intro r
  obtain ⟨⟨-, hcontains, hwords⟩, hgrows, hnext, hlast, hfirst, hrow⟩ := r.offset_tiles
  have hshows : (r.atPage 2).Shows 401 := ⟨by decide, by decide⟩
  refine ⟨by decide, hcontains, hwords, hlast 9223372036854775807 (by decide),
    hfirst (-1) (by decide), hnext 2 (by decide) (by decide), hgrows 2 7 (by decide),
    hshows, ?_⟩
  intro p hp hle hp'
  exact (hrow 401 (by decide) (by decide)).unique ⟨⟨hp, hle⟩, hp'⟩ ⟨by decide, hshows⟩

end PageRequest

end FilterQuery
