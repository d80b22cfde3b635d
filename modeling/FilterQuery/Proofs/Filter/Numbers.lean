import FilterQuery.Proofs.Filter.OwnLiterals
import FilterQuery.Proofs.Filter.Shape
import FilterQuery.Proofs.Query.Page

namespace FilterQuery

/-!
# Filters on numbers

A literal of a filter on numbers is a numeral of 64 bits: a sign or none, then ASCII digits, with
any number of zeros in front.  The numbers of a page request are numerals of the same kind, but
white space may stand around them.

* `Alternative.IsOffNumber` — a part that is neither `null` nor such a numeral;
* `Parsed.IsNumber` — what any other part stands for;
* `FieldFilter.read_numbers` — filter values and page requests, with what is reported of those that
  are refused.
-/

/-! ### Parts -/

/-- A part of a filter value whose literal is neither `null` nor a numeral of 64 bits. -/
def Alternative.IsOffNumber (part : List Char) : Prop :=
  isNullLiteral (literalOf part) = false ∧ ¬∃ n, Bounds.signed64.Says (literalOf part) n

/-- What a part of a filter value stands for among numbers: nothing, or the number that the literal
    says. -/
inductive Parsed.IsNumber (part : List Char) : Parsed Int → Prop
  | absent (h : Alternative.isNullLiteral (Alternative.literalOf part) = true) :
    IsNumber part ⟨.null, Alternative.negates part, none⟩
  | present {n : Int} (h : Alternative.isNullLiteral (Alternative.literalOf part) = false)
    (hn : Bounds.signed64.Says (Alternative.literalOf part) n) :
    IsNumber part ⟨.equals, Alternative.negates part, some n⟩

/-- What is reported of a literal that is no numeral of 64 bits. -/
def FilterError.notNumber (key literal : String) : FilterError :=
  .wrongValue key "number" literal (some (.integer (Bounds.signed64.fault literal.toList)))

theorem Parsed.isOf_number_iff_isNumber {key : String} {part : List Char} {v : Parsed Int} :
    IsOf .number key part v ↔ IsNumber part v := by
  have hread {n : Int} {s : String} :
      Bounds.signed64.read s = .ok n ↔ Bounds.signed64.Says s n :=
    Bounds.read_eq_ok_iff_says (by decide) (by decide)
  rw [isOf_number_iff]
  simp only [hread]
  constructor
  · rintro (⟨hnull, rfl⟩ | ⟨hnull, n, hn, rfl⟩)
    · exact .absent hnull
    · exact .present hnull hn
  · rintro (hnull | ⟨hnull, hn⟩)
    · exact .inl ⟨hnull, rfl⟩
    · exact .inr ⟨hnull, _, hn, rfl⟩

/-- A filter on numbers refuses the parts that are neither `null` nor numerals of 64 bits. -/
theorem FilterKind.refuses_number_iff {key : String} {part : List Char} {e : FilterError} :
    number.Refuses key part e ↔
      Alternative.IsOffNumber part ∧ e = .notNumber key (Alternative.literalOf part) := by
  have hread : number.readLiteral key (Alternative.literalOf part) = .error e ↔
      ∃ cause, Bounds.signed64.read (Alternative.literalOf part) = .error cause ∧
        e = .wrongValue key "number" (Alternative.literalOf part) (some (.integer cause)) := by
    rw [readLiteral]
    cases Bounds.signed64.read (Alternative.literalOf part) with
    | ok n => simp
    | error cause => simp [eq_comm, Category.name]
  rw [Refuses, hread, Alternative.IsOffNumber, FilterError.notNumber, and_assoc]
  simp only [Bounds.read_eq_error_iff (b := .signed64) (by decide) (by decide), and_assoc,
    exists_and_left, exists_eq_left]

/-! ### Filter values -/

namespace FieldFilter

variable {key raw : String}

/-- A filter value is read where each of its parts is `null` or a numeral of 64 bits. -/
theorem exists_read_numbers_iff :
    (∃ o, read .number key (some raw) = .ok o) ↔
      ∀ part ∈ Alternative.parts raw,
        Alternative.isNullLiteral (Alternative.literalOf part) = false →
          ∃ n, Bounds.signed64.Says (Alternative.literalOf part) n := by
  rw [exists_read_iff_of_refuses fun _ _ => FilterKind.refuses_number_iff]
  simp [Alternative.IsOffNumber]

/-- The filter of a value holds what its parts stand for, and its predicate binds the numbers among
    them. -/
theorem numbers_of_read {f : FieldFilter} (h : read .number key (some raw) = .ok (some f)) :
    ∃ vs : List (Parsed Int), f = ⟨.number, key, vs⟩ ∧
      List.Forall₂ Parsed.IsNumber (Alternative.parts raw) vs ∧
      ∀ column, ∃ p, f.predicate column = .ok p ∧
        p.binds = vs.filterMap fun v => v.value.map Value.integer := by
  obtain ⟨vs, rfl, hparts, hbinds⟩ := operands_of_read Value.integer (fun _ => rfl) h
  exact ⟨vs, rfl, hparts.imp fun _ _ => Parsed.isOf_number_iff_isNumber.mp, hbinds⟩

/-- The text of a number of 64 bits is read as that number. -/
theorem read_number_text {n : Int} (h : Bounds.signed64.Contains n) :
    read .number key (some (toString n)) =
      .ok (some ⟨.number, key, [⟨.equals, false, some n⟩]⟩) := by
  obtain ⟨hliteral, hnull⟩ := isLiteral_toString_int n
  exact read_of_isLiteral hliteral hnull (by rw [FilterKind.readLiteral, Bounds.read_toString h])

/-- **Numbers of clients.** A filter value is read exactly where each of its parts is `null` or a
    numeral of 64 bits; else the first part that is neither is reported.  The filter holds the
    numbers that the literals say, and its predicates bind them.  The text of every number of 64
    bits is read as that number.  The page and the number of rows that parameters ask for are said
    by such numerals, too, with white space around them; else the first of the two that is garbled
    is reported. -/
theorem read_numbers (key raw : String) (params : Params) :
    ((∃ o, read .number key (some raw) = .ok o) ↔
      ∀ part ∈ Alternative.parts raw,
        Alternative.isNullLiteral (Alternative.literalOf part) = false →
          ∃ n, Bounds.signed64.Says (Alternative.literalOf part) n) ∧
    (∀ e, read .number key (some raw) = .error e ↔
      ∃ part, IsFirst Alternative.IsOffNumber (Alternative.parts raw) part ∧
        e = .notNumber key (Alternative.literalOf part)) ∧
    (∀ f, read .number key (some raw) = .ok (some f) →
      ∃ vs : List (Parsed Int), f = ⟨.number, key, vs⟩ ∧
        List.Forall₂ Parsed.IsNumber (Alternative.parts raw) vs ∧
        ∀ column, ∃ p, f.predicate column = .ok p ∧
          p.binds = vs.filterMap fun v => v.value.map Value.integer) ∧
    (∀ n, Bounds.signed64.Contains n → Bounds.signed64.Says (toString n) n ∧
      ∃ f, read .number key (some (toString n)) = .ok (some f) ∧
        ∀ column, f.predicate column =
          .ok (.test (.member (.column column) [.integer n] false))) ∧
    (∀ r filters, PageRequest.ofParams params = .ok (r, filters) →
      PageRequest.AsksFor params "page" r.page ∧ PageRequest.AsksFor params "count" r.count) ∧
    ∀ e, PageRequest.ofParams params = .error e ↔
      (∃ key, IsFirst (PageRequest.IsGarbled params) ["page", "count"] key ∧
        ∃ text, params.get? key = some text ∧ e = .invalidParameter key text) ∨
      (∀ key ∈ ["page", "count"], ¬PageRequest.IsGarbled params key) ∧
        ∃ s, PageRequest.readText? params "sort" = some s ∧ s ≠ "asc" ∧ s ≠ "desc" ∧
          e = .invalidSort s := by
  refine ⟨exists_read_numbers_iff,
    fun e => read_eq_error_iff_of_refuses fun _ _ => FilterKind.refuses_number_iff,
    fun f => numbers_of_read, ?_, ?_, fun e => PageRequest.ofParams_eq_error_iff⟩
  · intro n hn
    exact ⟨⟨numeral_toString n, hn⟩, _, read_number_text hn, fun column => rfl⟩
  · intro r filters hsplits
    obtain ⟨hpage, hcount, -⟩ := PageRequest.ofParams_eq_ok_iff.mp hsplits
    exact ⟨PageRequest.readNumber_eq_ok_iff.mp hpage, PageRequest.readNumber_eq_ok_iff.mp hcount⟩

/-- The smallest number excluded and zeros in front of another; one past the largest, which is
    refused before the word behind it; a page with white space around it, and a number of rows that
    has a fraction. -/
theorem read_numbers_bounds :
    let accepted : Params := ⟨[("page", "\u2003+2 "), ("name", "x")]⟩
    let refused : Params := ⟨[("count", "5.0"), ("page", "-0"), ("sort", "up")]⟩
    (∃ f p, read .number "id" (some "not_-9223372036854775808|+007|null") = .ok (some f) ∧
      f.predicate "id" = .ok p ∧ p.binds = [.integer (-9223372036854775808), .integer 7]) ∧
    (read .number "id" (some "5|9223372036854775808|five") =
        .error (.wrongValue "id" "number" "9223372036854775808" (some (.integer .tooLarge))) ∧
      ∃ part, IsFirst Alternative.IsOffNumber
        (Alternative.parts "5|9223372036854775808|five") part ∧
          Alternative.literalOf part = "9223372036854775808") ∧
    (∃ f, read .number "id" (some "9223372036854775807") = .ok (some f) ∧
      f.predicate "id" =
        .ok (.test (.member (.column "id") [.integer 9223372036854775807] false))) ∧
    (∃ r filters, PageRequest.ofParams accepted = .ok (r, filters) ∧ r.page = some 2 ∧
      PageRequest.AsksFor accepted "page" (some 2)) ∧
    PageRequest.ofParams refused = .error (.invalidParameter "count" "5.0") ∧
      ∃ key, IsFirst (PageRequest.IsGarbled refused) ["page", "count"] key ∧
        refused.get? key = some "5.0" := by
  intro accepted refused
  obtain ⟨-, -, hvalues, hlargest, hasks, -⟩ :=
    read_numbers "id" "not_-9223372036854775808|+007|null" accepted
  obtain ⟨-, hrefuses, -, -, -, hgarbled⟩ :=
    read_numbers "id" "5|9223372036854775808|five" refused
  refine ⟨?_, ?_, ?_, ?_, ?_⟩
  · have hread : read .number "id" (some "not_-9223372036854775808|+007|null") =
        .ok (some ⟨.number, "id", [⟨.equals, true, some (-9223372036854775808)⟩,
          ⟨.equals, false, some 7⟩, ⟨.null, false, none⟩]⟩) := by
      with_unfolding_all rfl
    obtain ⟨vs, hvs, -, hbinds⟩ := hvalues _ hread
    obtain ⟨p, hp, hvalue⟩ := hbinds "id"
    refine ⟨_, p, hread, hp, ?_⟩
    cases hvs
    exact hvalue
  · have hread : read .number "id" (some "5|9223372036854775808|five") =
        .error (.wrongValue "id" "number" "9223372036854775808" (some (.integer .tooLarge))) := by
      rfl
    obtain ⟨part, hfirst, he⟩ := (hrefuses _).mp hread
    obtain ⟨-, -, hliteral, -⟩ := FilterError.wrongValue.inj he
    exact ⟨hread, part, hfirst, hliteral.symm⟩
  · obtain ⟨-, f, hf, hp⟩ := hlargest 9223372036854775807 (by decide)
    exact ⟨f, hf, hp "id"⟩
  · have hsplits : PageRequest.ofParams accepted =
        .ok (⟨some 2, none, none, none⟩, ⟨[("name", "x")]⟩) := by
      rfl
    exact ⟨_, _, hsplits, rfl, (hasks _ _ hsplits).1⟩
  · have hsplits : PageRequest.ofParams refused = .error (.invalidParameter "count" "5.0") := by
      rfl
    refine ⟨hsplits, ?_⟩
    obtain ⟨key, hfirst, text, htext, he⟩ | ⟨-, s, -, -, -, he⟩ := (hgarbled _).mp hsplits
    · obtain ⟨-, rfl⟩ := QueryError.invalidParameter.inj he
      exact ⟨key, hfirst, htext⟩
    · cases he

end FieldFilter

end FilterQuery
