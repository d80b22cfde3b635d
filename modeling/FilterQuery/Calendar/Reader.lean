import FilterQuery.Calendar.Layout

namespace FilterQuery

/-!
# Reading timestamps

`Timestamp.read` takes the stored form `YYYY-MM-DD HH:MM:SS`, an RFC 3339 timestamp
(moved to UTC) or a bare `YYYY-MM-DD` (midnight), tried in this order.  A text that is
none of them is refused for the reason that it is no bare date.

`Timestamp.readIso` takes `YYYY-MM-DDTHH:MM:SS` with an optional fraction.
-/

namespace Layout

/-- The numbers of a day, separated by hyphens. -/
def day : Layout := [.number .year, .oneOf ['-'], .number .month, .oneOf ['-'], .number .day]

/-- The numbers of a time of day, separated by colons. -/
def clock : Layout :=
  [.number .hour, .oneOf [':'], .number .minute, .oneOf [':'], .number .second]

/-- `YYYY-MM-DD HH:MM:SS`. -/
def stored : Layout := day ++ [.blank] ++ clock

/-- An RFC 3339 timestamp. -/
def rfc3339 : Layout :=
  [.fixed .year 4, .oneOf ['-'], .fixed .month 2, .oneOf ['-'], .fixed .day 2,
    .oneOf ['T', 't', ' '],
    .fixed .hour 2, .oneOf [':'], .fixed .minute 2, .oneOf [':'], .fixed .second 2,
    .fraction, .offset]

/-- `YYYY-MM-DDTHH:MM:SS` with an optional fraction, and white space before separators
    and at the end. -/
def iso : Layout :=
  [.number .year, .blank, .oneOf ['-'], .number .month, .blank, .oneOf ['-'], .number .day,
    .blank, .oneOf ['T'],
    .number .hour, .blank, .oneOf [':'], .number .minute, .blank, .oneOf [':'], .number .second,
    .fraction, .blank]

end Layout

/-- A text that is no timestamp. -/
structure TimestampError where
  text : String
  cause : ScanError
  deriving DecidableEq

/-- The text of a timestamp error. -/
def TimestampError.message (e : TimestampError) : String :=
  s!"Invalid datetime '{e.text}': {e.cause.message}"

namespace Timestamp

/-- The first reading that succeeds, else the error of the last. -/
def readChars (cs : List Char) : Except ScanError Timestamp :=
  match Layout.stored.read cs with
  | .ok t => .ok t
  | .error _ =>
    match Layout.rfc3339.read cs with
    | .ok t => .ok t
    | .error _ => Layout.day.read cs

/-- Reads a stored, RFC 3339 or bare date text. -/
def read (s : String) : Except TimestampError Timestamp :=
  (readChars s.toList).mapError (⟨s, ·⟩)

/-- Reads `YYYY-MM-DDTHH:MM:SS` with an optional fraction. -/
def readIso? (s : String) : Option Timestamp :=
  match Layout.iso.read s.toList with
  | .ok t => some t
  | .error _ => none

end Timestamp

end FilterQuery
