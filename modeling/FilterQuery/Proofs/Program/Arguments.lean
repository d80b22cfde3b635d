import FilterQuery.Program.CommandLine
import FilterQuery.Proofs.Steps
import Mathlib.Data.List.TakeWhile

namespace FilterQuery

/-!
# What command lines say

After the name of an entity each argument gives a key a value, asks for the count, or is out of
place.  The arguments are read one after the other: what comes of them is said here for all of
them, in whatever order they stand.

* `Command.assignment`, `Command.IsKey` — how a value is given to a key;
* `Command.IsStray` — the arguments that are out of place;
* `Command.SetsLast` — the value that arguments give a key last;
* `Command.readArguments_eq_ok`, `Command.readArguments_eq_error_iff` — what is read, and when
  reading fails;
* `WritableParams` — the parameters that can be written on a command line;
* `Command.read_arguments` — what is written is read back.
-/

open Access (EntityKind)

namespace Command

/-! ### Single arguments -/

/-- A text that can stand before the equals sign. -/
def IsKey (key : String) : Prop := key ≠ "" ∧ '=' ∉ key.toList

instance : DecidablePred IsKey := fun _ => inferInstanceAs (Decidable (_ ∧ _))

/-- The argument that gives a key a value. -/
def assignment (p : String × String) : String := p.1 ++ "=" ++ p.2

/-- An argument that does not ask for the count and gives no value to a key: there is no equals
    sign, or nothing before it. -/
def IsStray (a : String) : Prop :=
  a ≠ "--count" ∧ ('=' ∉ a.toList ∨ a.toList.head? = some '=')

instance : DecidablePred IsStray := fun _ => inferInstanceAs (Decidable (_ ∧ _))

variable {p : String × String} {a key value : String}

theorem toList_assignment (p : String × String) :
    (assignment p).toList = p.1.toList ++ '=' :: p.2.toList := by
  simp [assignment]

theorem assignment_ne_count (p : String × String) : assignment p ≠ "--count" := by
  intro h
  have hmem : '=' ∈ "--count".toList := by
    rw [← h, toList_assignment]
    simp
  exact absurd hmem (by decide)

/-- The key and the value of an argument are found again, whatever the value is. -/
theorem splitParameter?_assignment (h : IsKey p.1) : splitParameter? (assignment p) = some p := by
  obtain ⟨key, value⟩ := p
  obtain ⟨hne, heq⟩ := h
  have hkey : ∀ c ∈ key.toList, decide (c ≠ '=') = true := by
    intro c hc
    exact decide_eq_true fun h => heq (h ▸ hc)
  have htake : (key.toList ++ '=' :: value.toList).takeWhile (· ≠ '=') = key.toList := by
    rw [List.takeWhile_append_of_pos hkey, List.takeWhile_cons_of_neg (by simp), List.append_nil]
  have hdrop : (key.toList ++ '=' :: value.toList).dropWhile (· ≠ '=') = '=' :: value.toList := by
    rw [List.dropWhile_append_of_pos hkey, List.dropWhile_cons_of_neg (by simp)]
  have hempty : key.toList.isEmpty = false := by simpa using hne
  simp only [splitParameter?, toList_assignment, htake, hdrop, hempty]
  simp

theorem splitParameter?_eq_none (h : '=' ∉ a.toList ∨ a.toList.head? = some '=') :
    splitParameter? a = none := by
  unfold splitParameter?
  obtain hnone | hhead := h
  · have hdrop : a.toList.dropWhile (· ≠ '=') = [] :=
      List.dropWhile_eq_nil_iff.mpr fun c hc => decide_eq_true fun h => hnone (h ▸ hc)
    simp only [hdrop]
  · obtain ⟨cs, hcs⟩ := List.head?_eq_some_iff.mp hhead
    simp [hcs]

/-- An argument asks for the count, gives a key a value, or is out of place. -/
theorem argument_cases (a : String) :
    a = "--count" ∨ (∃ p, IsKey p.1 ∧ a = assignment p) ∨ IsStray a := by
  by_cases hcount : a = "--count"
  · exact .inl hcount
  by_cases hmem : '=' ∈ a.toList
  · -- what stands before the first equals sign is the key, if there is something
    obtain ⟨cs, ds, heq, hcs⟩ := List.eq_append_cons_of_mem hmem
    cases cs with
    | nil => exact .inr (.inr ⟨hcount, .inr (by rw [heq]; rfl)⟩)
    | cons c cs =>
      refine .inr (.inl ⟨(String.ofList (c :: cs), String.ofList ds), ⟨by simp, by simpa using hcs⟩,
        String.toList_injective ?_⟩)
      rw [toList_assignment, heq]
      simp
  · exact .inr (.inr ⟨hcount, .inl hmem⟩)

theorem not_isStray_assignment (h : IsKey p.1) : ¬IsStray (assignment p) := by
  rintro ⟨-, hstray⟩
  have hnone := splitParameter?_eq_none hstray
  rw [splitParameter?_assignment h] at hnone
  cases hnone

theorem not_isStray_count : ¬IsStray "--count" := fun h => h.1 rfl

/-! ### Values of keys -/

/-- The value that an argument gives a key. -/
def valueOf? (key a : String) : Option String :=
  (splitParameter? a).bind fun p => if p.1 = key then some p.2 else none

/-- The value that arguments give a key last. -/
def lastValue? (key : String) (args : List String) : Option String :=
  (args.filterMap (valueOf? key)).getLast?

/-- The arguments give the key a value, and none after this one. -/
def SetsLast (args : List String) (key value : String) : Prop :=
  IsKey key ∧ ∃ before after, args = before ++ assignment (key, value) :: after ∧
    ∀ other, assignment (key, other) ∉ after

theorem valueOf?_assignment (h : IsKey p.1) :
    valueOf? key (assignment p) = if p.1 = key then some p.2 else none := by
  rw [valueOf?, splitParameter?_assignment h, Option.bind_some]

theorem valueOf?_count : valueOf? key "--count" = none := by
  rw [valueOf?, splitParameter?_eq_none (.inl (by decide)), Option.bind_none]

/-- An argument gives a key a value where it is the assignment of this value. -/
theorem valueOf?_eq_some_iff :
    valueOf? key a = some value ↔ IsKey key ∧ a = assignment (key, value) := by
  constructor
  · intro h
    obtain rfl | ⟨p, hp, rfl⟩ | ⟨-, hstray⟩ := argument_cases a
    · rw [valueOf?_count] at h
      cases h
    · rw [valueOf?_assignment hp] at h
      split_ifs at h with hkey
      obtain rfl := hkey
      obtain rfl := Option.some.inj h
      exact ⟨hp, rfl⟩
    · rw [valueOf?, splitParameter?_eq_none hstray] at h
      cases h
  · rintro ⟨hkey, rfl⟩
    rw [valueOf?_assignment hkey, if_pos rfl]

theorem lastValue?_cons (key a : String) (args : List String) :
    lastValue? key (a :: args) = (lastValue? key args).or (valueOf? key a) :=
  getLast?_filterMap_cons (valueOf? key) a args

theorem lastValue?_eq_some_iff {args : List String} :
    lastValue? key args = some value ↔ SetsLast args key value := by
  constructor
  · intro h
    -- the arguments split at the one that gives the last of the values
    obtain ⟨values, hvalues⟩ := List.getLast?_eq_some_iff.mp h
    obtain ⟨front, back, rfl, -, hback⟩ := List.filterMap_eq_append_iff.mp hvalues
    obtain ⟨skipped, a, after, rfl, -, ha, hafter⟩ := List.filterMap_eq_cons_iff.mp hback
    obtain ⟨hkey, rfl⟩ := valueOf?_eq_some_iff.mp ha
    refine ⟨hkey, front ++ skipped, after, by rw [List.append_assoc], fun other hother => ?_⟩
    have hnone := List.filterMap_eq_nil_iff.mp hafter _ hother
    rw [valueOf?_eq_some_iff.mpr ⟨hkey, rfl⟩] at hnone
    cases hnone
  · rintro ⟨hkey, before, after, rfl, hafter⟩
    have hnone : after.filterMap (valueOf? key) = [] := by
      refine List.filterMap_eq_nil_iff.mpr fun a ha => Option.eq_none_iff_forall_ne_some.mpr ?_
      rintro other hother
      obtain ⟨-, rfl⟩ := valueOf?_eq_some_iff.mp hother
      exact hafter other ha
    rw [lastValue?, List.filterMap_append, List.filterMap_cons_some
      (valueOf?_eq_some_iff.mpr ⟨hkey, rfl⟩), hnone, List.getLast?_concat]

/-! ### Reading arguments -/

section Reading

variable {ps : Params} {countOnly : Bool} {args : List String}

theorem readArguments_count :
    readArguments ps countOnly ("--count" :: args) = readArguments ps true args :=
  if_pos rfl

theorem readArguments_assignment (h : IsKey p.1) :
    readArguments ps countOnly (assignment p :: args) =
      readArguments (ps.insert p.1 p.2) countOnly args := by
  rw [readArguments, if_neg (assignment_ne_count p), splitParameter?_assignment h]

theorem readArguments_stray (h : IsStray a) :
    readArguments ps countOnly (a :: args) = .error (.noParameter a) := by
  rw [readArguments, if_neg h.1, splitParameter?_eq_none h.2]

/-- What an assignment inserts is the value that it gives its key. -/
theorem get?_insert_assignment (h : IsKey p.1) :
    (ps.insert p.1 p.2).get? key = (valueOf? key (assignment p)).or (ps.get? key) := by
  rw [Params.get?_insert, valueOf?_assignment h]
  by_cases hkey : p.1 = key
  · rw [if_pos hkey, if_pos hkey.symm, Option.some_or]
  · rw [if_neg hkey, if_neg (Ne.symm hkey), Option.none_or]

/-- Arguments of which none is out of place are read: each key has the value that it is given
    last, or else the one it had. -/
theorem readArguments_eq_ok (ps : Params) (countOnly : Bool) (h : ∀ a ∈ args, ¬IsStray a) :
    ∃ ps', readArguments ps countOnly args = .ok (ps', countOnly || decide ("--count" ∈ args)) ∧
      ∀ key, ps'.get? key = (lastValue? key args).or (ps.get? key) := by
  -- by induction on the arguments, whatever was read before them
  induction args generalizing ps countOnly with
  | nil => exact ⟨ps, by simp [readArguments], fun _ => rfl⟩
  | cons a args ih =>
    obtain ⟨ha, hargs⟩ := List.forall_mem_cons.mp h
    simp only [lastValue?_cons, Option.or_assoc]
    obtain rfl | ⟨p, hp, rfl⟩ | hstray := argument_cases a
    · obtain ⟨ps', hread, hget⟩ := ih ps true hargs
      refine ⟨ps', ?_, fun key => ?_⟩
      · rw [readArguments_count, hread]
        simp
      · rw [hget, valueOf?_count, Option.none_or]
    · obtain ⟨ps', hread, hget⟩ := ih (ps.insert p.1 p.2) countOnly hargs
      refine ⟨ps', ?_, fun key => ?_⟩
      · rw [readArguments_assignment hp, hread]
        simp [(assignment_ne_count p).symm]
      · rw [hget, get?_insert_assignment hp]
    · exact absurd hstray ha

/-- Reading fails at the first argument that is out of place. -/
theorem readArguments_eq_error_iff (ps : Params) (countOnly : Bool) {e : UsageError} :
    readArguments ps countOnly args = .error e ↔
      ∃ a, IsFirst IsStray args a ∧ e = .noParameter a := by
  induction args generalizing ps countOnly with
  | nil => simp [readArguments, not_isFirst_nil]
  | cons a args ih =>
    simp only [isFirst_cons_iff]
    obtain rfl | ⟨p, hp, rfl⟩ | hstray := argument_cases a
    · simp only [readArguments_count, not_isStray_count, ih]
      simp
    · simp only [readArguments_assignment hp, not_isStray_assignment hp, ih]
      simp
    · rw [readArguments_stray hstray]
      simp [hstray, eq_comm]

end Reading

end Command

/-! ### Parameters on a command line -/

/-- Where each key has one entry, this is the entry that is found. -/
theorem Params.filterMap_entries {ps : Params} (h : (ps.entries.map Prod.fst).Nodup)
    (key : String) :
    ps.entries.filterMap (fun p => if p.1 = key then some p.2 else none) =
      (ps.get? key).toList := by
  obtain ⟨entries⟩ := ps
  induction entries with
  | nil => rfl
  | cons p entries ih =>
    obtain ⟨hp, hnodup⟩ := List.nodup_cons.mp h
    by_cases hkey : p.1 = key
    · have hrest : entries.filterMap (fun p => if p.1 = key then some p.2 else none) = [] := by
        refine List.filterMap_eq_nil_iff.mpr fun q hq => if_neg fun h => hp ?_
        exact List.mem_map.mpr ⟨q, hq, h.trans hkey.symm⟩
      simp only [List.filterMap_cons, if_pos hkey, hrest, get?]
      rw [List.find?_cons_of_pos (by simpa using hkey)]
      rfl
    · simp only [List.filterMap_cons, if_neg hkey, ih hnodup, get?]
      rw [List.find?_cons_of_neg (by simpa using hkey)]

/-- Parameters that can be written on a command line: each key stands before an equals sign, and
    has one value. -/
structure WritableParams extends Params where
  isKey : ∀ p ∈ entries, Command.IsKey p.1
  nodup : (entries.map Prod.fst).Nodup

namespace WritableParams

open Command

/-- The arguments that give each key its value. -/
def arguments (m : WritableParams) : List String := m.entries.map assignment

theorem not_isStray (m : WritableParams) {a : String} (h : a ∈ m.arguments) : ¬IsStray a := by
  obtain ⟨p, hp, rfl⟩ := List.mem_map.mp h
  exact not_isStray_assignment (m.isKey p hp)

theorem count_notMem (m : WritableParams) : "--count" ∉ m.arguments := by
  intro h
  obtain ⟨p, -, hp⟩ := List.mem_map.mp h
  exact assignment_ne_count p hp

theorem filterMap_arguments (m : WritableParams) (key : String) :
    m.arguments.filterMap (valueOf? key) = (m.get? key).toList := by
  rw [arguments, List.filterMap_map, ← Params.filterMap_entries m.nodup]
  exact List.filterMap_congr fun p hp => valueOf?_assignment (m.isKey p hp)

/-- The arguments give each key its value, in whatever order they stand and with whatever flags
    between them. -/
theorem lastValue?_of_perm (m : WritableParams) {n : ℕ} {args : List String}
    (h : args.Perm (m.arguments ++ List.replicate n "--count")) (key : String) :
    lastValue? key args = m.get? key := by
  have hflags : (List.replicate n "--count").filterMap (valueOf? key) = [] := by
    refine List.filterMap_eq_nil_iff.mpr fun a ha => ?_
    rw [List.eq_of_mem_replicate ha, valueOf?_count]
  have hvalues := h.filterMap (valueOf? key)
  rw [List.filterMap_append, hflags, List.append_nil, filterMap_arguments] at hvalues
  -- a key has one value at most, and there is only one order of it
  rw [lastValue?]
  cases hget : m.get? key with
  | none =>
    rw [hget] at hvalues
    rw [hvalues.eq_nil]
    rfl
  | some value =>
    rw [hget] at hvalues
    rw [List.perm_singleton.mp hvalues]
    rfl

end WritableParams

namespace Command

/-- The arguments after an entity are read as these parameters; whether there is a flag is only
    kept for a query. -/
def Reads (entity : EntityKind) (args : List String) (ps : Params) (countOnly : Bool) : Prop :=
  read ("query" :: entity.argument :: args) = .ok (.query entity ps countOnly) ∧
    read ("compile" :: entity.argument :: args) = .ok (.compile entity ps)

variable {entity : EntityKind} {args : List String}

theorem readEntity_argument (verb : String) :
    readEntity verb (entity.argument :: args) =
      (readArguments .empty false args).map (entity, ·) := by
  rw [readEntity, EntityKind.ofArgument?_argument]

/-- Arguments of which none is out of place are read, with the last value of each key. -/
theorem exists_reads (entity : EntityKind) (h : ∀ a ∈ args, ¬IsStray a) :
    ∃ ps, Reads entity args ps (decide ("--count" ∈ args)) ∧
      ∀ key, ps.get? key = lastValue? key args := by
  obtain ⟨ps, hread, hget⟩ := readArguments_eq_ok .empty false h
  refine ⟨ps, ⟨?_, ?_⟩, fun key => ?_⟩
  · simp [read, readEntity_argument, hread, Except.map]
  · simp [read, readEntity_argument, hread, Except.map]
  · rw [hget, Params.get?_empty, Option.or_none]

theorem read_eq_error_iff {verb : String} (hverb : verb = "compile" ∨ verb = "query")
    {e : UsageError} : read (verb :: entity.argument :: args) = .error e ↔
      ∃ a, IsFirst IsStray args a ∧ e = .noParameter a := by
  rw [← readArguments_eq_error_iff .empty false]
  obtain rfl | rfl := hverb <;>
    cases hread : readArguments .empty false args <;>
    simp [read, readEntity_argument, hread, Except.map]

/-- **Command lines.** Parameters with different keys, and flags that ask for the count, are read
    back in whatever order they stand as arguments.  All arguments of which none is out of place
    are read, with the last value of each key.  Where one is out of place, and only there, reading
    fails, and the message shows the first of them. -/
theorem read_arguments (entity : EntityKind) (args : List String) :
    (∀ (m : WritableParams) (n : ℕ),
      args.Perm (m.arguments ++ List.replicate n "--count") →
        ∃ ps, Reads entity args ps (decide (0 < n)) ∧ ∀ key, ps.get? key = m.get? key) ∧
    ((∀ a ∈ args, ¬IsStray a) →
      ∃ ps, Reads entity args ps (decide ("--count" ∈ args)) ∧
        ∀ key value, ps.get? key = some value ↔ SetsLast args key value) ∧
    ∀ verb, verb = "compile" ∨ verb = "query" →
      ((∃ e, read (verb :: entity.argument :: args) = .error e) ↔ ∃ a ∈ args, IsStray a) ∧
        ∀ a, IsFirst IsStray args a → ∃ e, read (verb :: entity.argument :: args) = .error e ∧
          e.message = "Expected key=value, got '" ++ a ++ "'" := by
  refine ⟨fun m n hperm => ?_, fun hargs => ?_, fun verb hverb => ⟨?_, fun a ha => ?_⟩⟩
  · have hargs : ∀ a ∈ args, ¬IsStray a := by
      intro a ha
      obtain ha | ha := List.mem_append.mp (hperm.mem_iff.mp ha)
      · exact m.not_isStray ha
      · rw [List.eq_of_mem_replicate ha]
        exact not_isStray_count
    have hcount : "--count" ∈ args ↔ 0 < n := by
      rw [hperm.mem_iff, List.mem_append, List.mem_replicate, Nat.pos_iff_ne_zero]
      simp [m.count_notMem]
    obtain ⟨ps, hreads, hget⟩ := exists_reads entity hargs
    refine ⟨ps, ?_, fun key => (hget key).trans (m.lastValue?_of_perm hperm key)⟩
    rwa [decide_eq_decide.mpr hcount] at hreads
  · obtain ⟨ps, hreads, hget⟩ := exists_reads entity hargs
    exact ⟨ps, hreads, fun key value => by rw [hget, lastValue?_eq_some_iff]⟩
  · simp only [read_eq_error_iff hverb, ← exists_isFirst_iff]
    constructor
    · rintro ⟨-, a, ha, -⟩
      exact ⟨a, ha⟩
    · rintro ⟨a, ha⟩
      exact ⟨_, a, ha, rfl⟩
  · exact ⟨_, (read_eq_error_iff hverb).mpr ⟨a, ha, rfl⟩, rfl⟩

/-- Values with an equals sign and with the text of a flag, of which one is also a key; a key
    with two values; and two arguments out of place. -/
theorem read_arguments_users :
    (∃ ps, Reads .user ["--count", "--count=--count", "login=a=b", "--count"] ps true ∧
      ps.get? "--count" = some "--count" ∧ ps.get? "login" = some "a=b" ∧
      ps.get? "name" = none) ∧
    (∃ ps, Reads .user ["login=ann", "name=", "login=bob"] ps false ∧
      ps.get? "login" = some "bob") ∧
    ∃ e, read ["compile", "users", "login=ann", "--count", "=bob", "cy"] = .error e ∧
      e.message = "Expected key=value, got '=bob'" := by
  refine ⟨?_, ?_, ?_⟩
  · let m : WritableParams := ⟨⟨[("login", "a=b"), ("--count", "--count")]⟩, by decide, by decide⟩
    obtain ⟨hmap, -⟩ := read_arguments .user
      ["--count", "--count=--count", "login=a=b", "--count"]
    obtain ⟨ps, hreads, hget⟩ := hmap m 2 (by decide)
    exact ⟨ps, hreads, hget _, hget _, hget _⟩
  · obtain ⟨-, hlast, -⟩ := read_arguments .user ["login=ann", "name=", "login=bob"]
    obtain ⟨ps, hreads, hget⟩ := hlast (by decide)
    exact ⟨ps, hreads, (hget _ _).mpr
      ⟨by decide, ["login=ann", "name="], [], rfl, fun _ => List.not_mem_nil⟩⟩
  · obtain ⟨-, -, herror⟩ := read_arguments .user ["login=ann", "--count", "=bob", "cy"]
    obtain ⟨-, hfirst⟩ := herror "compile" (.inl rfl)
    exact hfirst "=bob" ⟨["login=ann", "--count"], ["cy"], rfl, by decide, by decide⟩

end Command

end FilterQuery
