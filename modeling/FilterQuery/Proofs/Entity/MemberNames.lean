import FilterQuery.Proofs.Entity.Declaration
import FilterQuery.Proofs.Filter.Strict
import Mathlib.Data.List.Nodup

namespace FilterQuery

/-!
# Members and their names

A member of an enumeration is stored under its name, and read back as the first member with
this name.  Labels are told apart by a declaration, but names are not: two labels may have the
same words, and any name may be given to several members.

* `Enumeration.ofName?_eq_some_iff` — the member that a name stands for;
* `Enumeration.forall_ofName?_iff` — all members are found exactly where their names differ;
* `Enumeration.decode` — the member that a column holds;
* `EnumDeclaration.names_inverse` — which members of an accepted enumeration are read back.
-/

namespace Enumeration

variable {e : Enumeration}

/-! ### Names -/

/-- A name stands for the first member that has it. -/
theorem ofName?_eq_some_iff {name : String} {m : Member} :
    e.ofName? name = some m ↔ IsFirst (fun m => m.name = name) e.members m := by
  rw [ofName?, List.find?_eq_some_iff_append, IsFirst]
  simp only [beq_iff_eq, Bool.not_eq_true', beq_eq_false_iff_ne]
  constructor
  · rintro ⟨hm, before, after, hmembers, hbefore⟩
    exact ⟨before, after, hmembers, hbefore, hm⟩
  · rintro ⟨before, after, hmembers, hbefore, hm⟩
    exact ⟨hm, before, after, hmembers, hbefore⟩

/-- The name of a member stands for a member of this name. -/
theorem exists_ofName?_of_mem {m : Member} (hm : m ∈ e.members) :
    ∃ m' ∈ e.members, m'.name = m.name ∧ e.ofName? m.name = some m' := by
  have hsome : (e.ofName? m.name).isSome := (e.ofName?_isSome_iff _).mpr (List.mem_map_of_mem hm)
  obtain ⟨m', hm'⟩ := Option.isSome_iff_exists.mp hsome
  obtain ⟨hmem, hname⟩ := of_ofName?_eq_some hm'
  exact ⟨m', hmem, hname, hm'⟩

/-- Of different members, all are found by their names exactly where no name is given twice. -/
theorem forall_ofName?_iff (h : e.members.Nodup) :
    (∀ m ∈ e.members, e.ofName? m.name = some m) ↔ e.names.Nodup := by
  constructor
  · -- a name that is given twice would stand for two members
    intro hfound
    refine List.Nodup.map_on ?_ h
    intro m hm m' hm' hname
    have hsame : some m = some m' := by
      rw [← hfound m hm, ← hfound m' hm', hname]
    exact Option.some.inj hsame
  · intro hnames m hm
    obtain ⟨m', hmem, hname, hm'⟩ := exists_ofName?_of_mem hm
    rw [hm', List.inj_on_of_nodup_map hnames hmem hm hname]

/-! ### Cells -/

/-- The member that a cell holds. -/
def decode (e : Enumeration) : Cell → Except DecodeCause Member
  | .text s =>
    match e.ofName? s with
    | some m => .ok m
    | none => .error (.member s e.typeName)
  | _ => .error .kind

theorem decode_text_eq_ok_iff {s : String} {m : Member} :
    e.decode (.text s) = .ok m ↔ e.ofName? s = some m := by
  rw [decode]
  cases e.ofName? s <;> simp

/-- What is read from a cell is the name of the member that it holds. -/
theorem ofCell_eq_decode (e : Enumeration) (c : Cell) :
    ((ValueType.enumeration e).ofCell c).map Subtype.val = (e.decode c).map Member.name := by
  cases c with
  | null | integer | real => rfl
  | text s =>
    rw [ValueType.ofCell, ValueType.ofStoredText, decode]
    cases hfound : e.ofName? s with
    | none =>
      have hs : s ∉ e.names := by rw [← e.ofName?_isSome_iff, hfound]; simp
      rw [dif_neg hs]
      rfl
    | some m =>
      obtain ⟨-, rfl⟩ := of_ofName?_eq_some hfound
      have hs : m.name ∈ e.names := by rw [← e.ofName?_isSome_iff, hfound]; rfl
      rw [dif_pos hs]
      rfl

end Enumeration

/-! ### Declared enumerations -/

namespace EnumDeclaration

/-- Members of an accepted enumeration are different where their labels are. -/
theorem nodup_members {d : EnumDeclaration} {e : Enumeration} (accepted : d.derive = .ok e)
    (labels : (d.members.map MemberDeclaration.label).Nodup) : e.members.Nodup := by
  rw [eq_of_derive accepted]
  have hlabels : ((d.members.map MemberDeclaration.member).map Member.label).Nodup := by
    rw [List.map_map]
    exact labels
  exact hlabels.of_map

/-- **Names of members.** A member of an accepted enumeration has the name that it is given
    last, or else its label in upper case.  What is found by a name has this name, and a member
    is found by its own name exactly where no member before it has the name.  A column that
    holds the name of a member is read without an error, as a member of this name; all members
    are read back exactly where no two have the same name. -/
theorem names_inverse {d : EnumDeclaration} {e : Enumeration} (accepted : d.derive = .ok e)
    (labels : (d.members.map MemberDeclaration.label).Nodup) :
    e.members = d.members.map MemberDeclaration.member ∧
      (∀ name m, e.ofName? name = some m → m ∈ e.members ∧ m.name = name) ∧
      (∀ m, e.ofName? m.name = some m ↔ IsFirst (fun m' => m'.name = m.name) e.members m) ∧
      ((∀ m ∈ e.members, e.ofName? m.name = some m) ↔ e.names.Nodup) ∧
      (∀ m ∈ e.members, ∃ m' ∈ e.members, m'.name = m.name ∧ e.decode (.text m.name) = .ok m') ∧
      ((∀ m ∈ e.members, e.decode (.text m.name) = .ok m) ↔ e.names.Nodup) ∧
      ∀ c, ((ValueType.enumeration e).ofCell c).map Subtype.val = (e.decode c).map Member.name := by
  have hmembers := nodup_members accepted labels
  have hfound := Enumeration.forall_ofName?_iff hmembers
  refine ⟨?_, fun _ _ => Enumeration.of_ofName?_eq_some,
    fun _ => Enumeration.ofName?_eq_some_iff, hfound, ?_, ?_, e.ofCell_eq_decode⟩
  · rw [eq_of_derive accepted]
  · intro m hm
    obtain ⟨m', hmem, hname, hm'⟩ := Enumeration.exists_ofName?_of_mem hm
    exact ⟨m', hmem, hname, Enumeration.decode_text_eq_ok_iff.mpr hm'⟩
  · simp only [Enumeration.decode_text_eq_ok_iff]
    exact hfound

/-- Three kinds of sources, the last with a name of its own. -/
theorem names_inverse_source :
    let d : EnumDeclaration := ⟨true, "Source",
      [⟨"HttpServer", false, []⟩, ⟨"DarkWeb", false, [⟨"rename", .text "HIDDEN"⟩]⟩,
        ⟨"Sha256", false, [⟨"rename", .text "x"⟩, ⟨"rename", .text "sha-256"⟩]⟩]⟩
    ∃ e, d.derive = .ok e ∧ (d.members.map MemberDeclaration.label).Nodup ∧
      e.names = ["HTTP_SERVER", "HIDDEN", "sha-256"] ∧
      ∀ m ∈ e.members, e.ofName? m.name = some m ∧ e.decode (.text m.name) = .ok m := by
  intro d
  have hlabels : (d.members.map MemberDeclaration.label).Nodup := by decide
  obtain ⟨-, -, -, hfound, -, hread, -⟩ := names_inverse (d := d) rfl hlabels
  exact ⟨_, rfl, hlabels, rfl,
    fun m hm => ⟨hfound.mpr (by decide) m hm, hread.mpr (by decide) m hm⟩⟩

/-- Two labels with the same words, and a member that is given the name they have: the
    declaration is accepted, and what is stored for any of the three is read as the first. -/
theorem names_collide :
    let d : EnumDeclaration := ⟨true, "Source",
      [⟨"HTTPServer", false, []⟩, ⟨"HttpServer", false, []⟩,
        ⟨"Proxy", false, [⟨"rename", .text "HTTP_SERVER"⟩]⟩]⟩
    (d.members.map MemberDeclaration.label).Nodup ∧
      ∃ e first second third, d.derive = .ok e ∧ e.members = [first, second, third] ∧
        ¬e.names.Nodup ∧ second ≠ first ∧ third ≠ first ∧
        e.ofName? second.name = some first ∧ e.decode (.text second.name) = .ok first ∧
        e.ofName? third.name = some first ∧ e.decode (.text third.name) = .ok first := by
  intro d
  refine ⟨by decide, _, ⟨"HTTPServer", "HTTP_SERVER"⟩, ⟨"HttpServer", "HTTP_SERVER"⟩,
    ⟨"Proxy", "HTTP_SERVER"⟩, rfl, rfl, ?_, ?_, ?_, rfl, rfl, rfl, rfl⟩
  · decide
  · decide
  · decide

end EnumDeclaration

end FilterQuery
