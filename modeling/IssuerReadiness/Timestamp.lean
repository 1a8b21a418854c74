import IssuerReadiness.Calendar
import IssuerReadiness.Text

/-!
# Time stamps

An instant is a number of nanoseconds from the start of 1970, UTC, before or
after it.  Time stamps are written and read in the format of RFC 3339 with
seconds and the zone `Z`.

## Writing

The instant is cut to whole seconds toward zero, so that the last nanosecond of
1969 is written as the first second of 1970.

## Reading

The reader is laxer than the writer.  Blanks before the year and after the
seconds are skipped, and so is one blank before the day, as in dates whose days are
filled with blanks.  A field may have fewer digits than the writer gives it, the
`T` may be small, a fraction of any length, also none, may follow the seconds,
and what follows the `Z` is not looked at.  A day that its month does not have,
and the second 60, read as the time that comes after.  One second cannot be
read: the last one of 1969, whose number -1 means failure.

* `format` --- an instant as a time stamp.
* `parse` --- the instant of a time stamp.
-/

namespace IssuerReadiness

/-- Nanoseconds from the start of 1970, UTC. -/
abbrev Instant := Int

namespace Timestamp

/-- Nanoseconds in a second. -/
def second : Int := 1000000000

/-- The number of whole seconds of an instant, cut toward zero. -/
def wholeSeconds (t : Instant) : Int :=
  t.tdiv second

/-- The written form of a number of seconds from the start of 1970. -/
def formatSeconds (s : Int) : List Char :=
  let date := Calendar.dateOfDay (s / 86400)
  let ofDay := (s % 86400).toNat
  Text.padded 4 date.year ++ '-' :: Text.padded 2 date.month ++ '-' :: Text.padded 2 date.day ++
    'T' :: Text.padded 2 (ofDay / 3600) ++ ':' :: Text.padded 2 (ofDay / 60 % 60) ++
    ':' :: Text.padded 2 (ofDay % 60) ++ ['Z']

/-- An instant as a time stamp. -/
def format (t : Instant) : String :=
  String.ofList (formatSeconds (wholeSeconds t))

/-! ## Reading -/

/-- Reads a number of one to `width` digits that lies between `lo` and `hi`. -/
def field (width lo hi : Nat) (cs : List Char) : Option (Nat × List Char) :=
  let ds := (cs.take width).takeWhile Text.isDigit
  let n := Text.ofDigits ds
  if ds ≠ [] ∧ lo ≤ n ∧ n ≤ hi then some (n, cs.drop ds.length) else none

/-- Leaves out one blank. -/
def skipBlank : List Char → List Char
  | c :: rest => if Text.isBlank c then rest else c :: rest
  | [] => []

/-- Reads one of the given characters. -/
def mark (allowed : List Char) : List Char → Option (List Char)
  | c :: rest => if c ∈ allowed then some rest else none
  | [] => none

/-- Whether the text after the seconds is accepted: blanks, perhaps a point and
digits, and then `Z`. -/
def closes (cs : List Char) : Bool :=
  match cs.dropWhile Text.isBlank with
  | 'Z' :: _ => true
  | '.' :: rest => (rest.dropWhile Text.isDigit).head? == some 'Z'
  | _ => false

/-- A date and a time of day as they are written. -/
structure Fields where
  date : Calendar.Date
  hour : Nat
  minute : Nat
  sec : Nat
  deriving DecidableEq, Repr

/-- Seconds from the start of 1970 to a written date and time. -/
def Fields.seconds (f : Fields) : Int :=
  86400 * Calendar.dayNumber f.date + 3600 * f.hour + 60 * f.minute + f.sec

/-- Reads the date and the time of day, and gives what follows them. -/
def readFields (cs : List Char) : Option (Fields × List Char) := do
  let (year, cs) ← field 4 0 9999 (cs.dropWhile Text.isBlank)
  let cs ← mark ['-'] cs
  let (month, cs) ← field 2 1 12 cs
  let cs ← mark ['-'] cs
  let (day, cs) ← field 2 1 31 (skipBlank cs)
  let cs ← mark ['T', 't'] cs
  let (hour, cs) ← field 2 0 23 cs
  let cs ← mark [':'] cs
  let (minute, cs) ← field 2 0 59 cs
  let cs ← mark [':'] cs
  let (sec, cs) ← field 2 0 60 cs
  return (⟨⟨year, month, day⟩, hour, minute, sec⟩, cs)

/-- The number of seconds that a time stamp stands for. -/
def parseSeconds (cs : List Char) : Option Int := do
  let (fields, rest) ← readFields cs
  if closes rest ∧ fields.seconds ≠ -1 then some fields.seconds else none

/-- The instant that a time stamp stands for.  Where instants are kept in 64 bits, those outside
of the years from 1678 to 2262 do not fit, and then it is left open which one is meant. -/
def parse (s : String) : Option Instant :=
  (parseSeconds s.toList).map (· * second)

example : format 1767323045000000000 = "2026-01-02T03:04:05Z" := by decide

example : parse "2026-01-02T03:04:05.25Z" = some 1767323045000000000 := by decide

example : parse "2026-01- 2T03:04:05Z" = some 1767323045000000000 := by decide

end Timestamp
end IssuerReadiness
