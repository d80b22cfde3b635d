import FilterQuery.Calendar.Basic
import FilterQuery.Number.Integer
import FilterQuery.Text.Blank

namespace FilterQuery

/-!
# Layouts of dates and times

A `Layout` is a list of items that a text is scanned for from left to right: numbers,
literal characters, white space, a fraction of a second and an offset from UTC.

* `Layout.scan` — the numbers found, each within its own range (month 13 and second 61
  are refused here);
* `Clock.resolve` — the timestamp those numbers name (30 February is refused here),
  moved to UTC.
-/

/-- Why a text does not follow a layout. -/
inductive ScanError where
  | invalid
  | premature
  | outOfRange
  | trailing
  deriving DecidableEq, Repr

/-- The text of a scan error. -/
def ScanError.message : ScanError → String
  | .invalid => "input contains invalid characters"
  | .premature => "premature end of input"
  | .outOfRange => "input is out of range"
  | .trailing => "trailing input"

/-- The numbers of a date and time. -/
inductive ClockPart where
  | year | month | day | hour | minute | second
  deriving DecidableEq, Repr

/-- The numbers that a scan has found; a part that a layout leaves out keeps its start
    value.  The offset is in minutes east of UTC. -/
structure Clock where
  year : Int := 0
  month : Nat := 1
  day : Nat := 1
  hour : Nat := 0
  minute : Nat := 0
  second : Nat := 0
  nanosecond : Nat := 0
  offset : Int := 0
  deriving DecidableEq

/-- One item of a layout. -/
inductive LayoutItem where
  /-- White space, then a number of as many digits as there are, up to four for a year
      and two for the rest; a signed year may have any number. -/
  | number (part : ClockPart)
  /-- A number of exactly so many digits. -/
  | fixed (part : ClockPart) (width : Nat)
  /-- One of these characters. -/
  | oneOf (choice : List Char)
  /-- Any run of white space. -/
  | blank
  /-- A point and the digits of a fraction, of which nine count; may be absent. -/
  | fraction
  /-- The letter Z, or a sign, two digits of hours, a colon and two of minutes. -/
  | offset
  deriving DecidableEq

/-- A list of items, scanned from left to right. -/
abbrev Layout := List LayoutItem

namespace Clock

/-- Puts a number in its place, within the range that its part has on every day. -/
def set (clock : Clock) (part : ClockPart) (n : Int) : Except ScanError Clock :=
  let within (low high : Int) (clock : Clock) : Except ScanError Clock :=
    if low ≤ n ∧ n ≤ high then .ok clock else .error .outOfRange
  match part with
  | .year => within (-2147483648) 2147483647 { clock with year := n }
  | .month => within 1 12 { clock with month := n.toNat }
  | .day => within 1 31 { clock with day := n.toNat }
  | .hour => within 0 23 { clock with hour := n.toNat }
  | .minute => within 0 59 { clock with minute := n.toNat }
  | .second => within 0 60 { clock with second := n.toNat }

/-- The timestamp in UTC, if the day and the time exist. -/
def resolve (clock : Clock) : Except ScanError Timestamp :=
  match Date.of? clock.year clock.month clock.day,
      TimeOfDay.ofClock? clock.hour clock.minute clock.second clock.nanosecond with
  | some date, some time =>
    match (Timestamp.mk date time).shift? clock.offset with
    | some t => .ok t
    | none => .error .outOfRange
  | _, _ => .error .outOfRange

end Clock

/-- The leading ASCII digits, at most `max` of them, and what follows. -/
def spanDigits : Nat → List Char → List Nat × List Char
  | 0, cs => ([], cs)
  | _ + 1, [] => ([], [])
  | max + 1, c :: cs =>
    match digit? c with
    | none => ([], c :: cs)
    | some d => (d :: (spanDigits max cs).1, (spanDigits max cs).2)

/-- The number that decimal digits stand for. -/
def ofDigits (digits : List Nat) : Nat := digits.foldl (fun n d => 10 * n + d) 0

/-- Reads a number of at least `min` and at most `max` digits. -/
def scanNumber (min max : Nat) (cs : List Char) : Except ScanError (Nat × List Char) :=
  let (digits, rest) := spanDigits max cs
  if min ≤ digits.length then .ok (ofDigits digits, rest)
  else if rest.isEmpty then .error .premature
  else .error .invalid

/-- Reads a year: up to four digits, or a sign and any number of digits. -/
def scanYear : List Char → Except ScanError (Int × List Char)
  | '-' :: cs => (scanNumber 1 cs.length cs).map fun (n, rest) => (-(n : Int), rest)
  | '+' :: cs => (scanNumber 1 cs.length cs).map fun (n, rest) => ((n : Int), rest)
  | cs => (scanNumber 1 4 cs).map fun (n, rest) => ((n : Int), rest)

/-- The nanoseconds of a fraction of which nine digits count. -/
def ofFraction (digits : List Nat) : Nat :=
  ofDigits (digits.take 9) * Nat.pow 10 (9 - digits.length)

/-- Reads an offset from UTC as minutes east. -/
def scanOffset : List Char → Except ScanError (Int × List Char)
  | [] => .error .premature
  | c :: cs =>
    if c = 'Z' ∨ c = 'z' then .ok (0, cs)
    else do
      let east : Int ←
        if c = '+' then .ok 1
        else if c = '-' ∨ c = '\u2212' then .ok (-1)
        else .error .invalid
      let (hours, cs) ← scanNumber 2 2 cs
      match cs with
      | ':' :: cs => do
        let (minutes, cs) ← scanNumber 2 2 cs
        if hours ≤ 23 ∧ minutes ≤ 59 then .ok (east * (hours * 60 + minutes), cs)
        else .error .outOfRange
      | [] => .error .premature
      | _ => .error .invalid

namespace LayoutItem

/-- Scans one item: the numbers after it and the rest of the text. -/
def scan (item : LayoutItem) (clock : Clock) (cs : List Char) :
    Except ScanError (Clock × List Char) :=
  match item with
  | .number .year => do
    let (n, rest) ← scanYear (Text.trimStart cs)
    return (← clock.set .year n, rest)
  | .number part => do
    let (n, rest) ← scanNumber 1 2 (Text.trimStart cs)
    return (← clock.set part n, rest)
  | .fixed part width => do
    let (n, rest) ← scanNumber width width cs
    return (← clock.set part n, rest)
  | .oneOf choice =>
    match cs with
    | [] => .error .premature
    | c :: rest => if choice.contains c then .ok (clock, rest) else .error .invalid
  | .blank => .ok (clock, Text.trimStart cs)
  | .fraction =>
    match cs with
    | '.' :: rest =>
      let (digits, rest) := spanDigits rest.length rest
      if digits.isEmpty then .error (if rest.isEmpty then .premature else .invalid)
      else .ok ({ clock with nanosecond := ofFraction digits }, rest)
    | _ => .ok (clock, cs)
  | .offset => do
    let (minutes, rest) ← scanOffset cs
    return ({ clock with offset := minutes }, rest)

end LayoutItem

namespace Layout

/-- Scans the items in order; nothing may be left over. -/
def scanFrom (clock : Clock) : Layout → List Char → Except ScanError Clock
  | [], [] => .ok clock
  | [], _ :: _ => .error .trailing
  | item :: items, cs => do
    let (clock, rest) ← item.scan clock cs
    scanFrom clock items rest

/-- The timestamp that a text gives under a layout. -/
def read (layout : Layout) (cs : List Char) : Except ScanError Timestamp := do
  (← layout.scanFrom {} cs).resolve

end Layout

end FilterQuery
