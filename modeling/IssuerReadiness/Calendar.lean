/-!
# The civil calendar

Days of the proleptic Gregorian calendar, numbered from 1 January 1970.

The day number of a date is linear in the day of the month: the days before the
year, the days before the month, and the day itself.  It is defined for days
that do not exist in their month as well, which is how such a day reads as one
of the month after it (30 February as 1 or 2 March).

The date of a day number goes through the cycles of the calendar: 400 years are
146097 days, the first three centuries of a cycle are 36524 days each, four years
of a century are 1461 days and the first three of those 365 days each.

* `dayNumber` --- from a date to its day.
* `dateOfDay` --- from a day to its date.
* `Date.Exists` --- the dates that the calendar has.
-/

namespace IssuerReadiness
namespace Calendar

/-- A date as it is written: a year, a month from 1 and a day from 1. -/
structure Date where
  year : Int
  month : Nat
  day : Nat
  deriving DecidableEq, Repr

/-- Every fourth year is a leap year, but of the century years only every
fourth. -/
def isLeap (year : Int) : Bool :=
  year % 4 == 0 && (year % 100 != 0 || year % 400 == 0)

/-- The lengths of the months of a year, January first. -/
def monthLengths (year : Int) : List Nat :=
  [31, if isLeap year then 29 else 28, 31, 30, 31, 30, 31, 31, 30, 31, 30, 31]

/-- The number of days of a month; none for a month that does not exist. -/
def monthLength (year : Int) (month : Nat) : Nat :=
  ((monthLengths year)[month - 1]?).getD 0

/-- The dates that the calendar has. -/
def Date.Exists (d : Date) : Prop :=
  1 ≤ d.month ∧ d.month ≤ 12 ∧ 1 ≤ d.day ∧ d.day ≤ monthLength d.year d.month

instance (d : Date) : Decidable d.Exists :=
  inferInstanceAs (Decidable (_ ∧ _ ∧ _ ∧ _))

/-- Days from the start of year 1 to the start of a year. -/
def daysBeforeYear (year : Int) : Int :=
  365 * (year - 1) + (year - 1) / 4 - (year - 1) / 100 + (year - 1) / 400

/-- Days from the start of a year to the start of one of its months. -/
def daysBeforeMonth (year : Int) (month : Nat) : Nat :=
  ((monthLengths year).take (month - 1)).foldl (· + ·) 0

/-- Days from the start of year 1 to 1 January 1970. -/
def epochDay : Int := 719162

/-- The number of a date, counted in days from 1 January 1970. -/
def dayNumber (d : Date) : Int :=
  daysBeforeYear d.year + daysBeforeMonth d.year d.month + (d.day - 1) - epochDay

/-- The month and the day in it of the `d`-th day, counted from 0, of a run of
months that starts with month `m`. -/
def monthAndDay (m : Nat) : List Nat → Nat → Nat × Nat
  | [], d => (m, d + 1)
  | length :: rest, d => if d < length then (m, d + 1) else monthAndDay (m + 1) rest (d - length)

/-- The year of a day and the number of days of that year before it; the day is
counted from the start of year 1. -/
def yearAndDay (n : Int) : Int × Int :=
  let cycle := n / 146097
  let inCycle := n % 146097
  let century := min (inCycle / 36524) 3
  let inCentury := inCycle - 36524 * century
  let four := inCentury / 1461
  let inFour := inCentury % 1461
  let single := min (inFour / 365) 3
  (400 * cycle + 100 * century + 4 * four + single + 1, inFour - 365 * single)

/-- The date of a day that is counted from 1 January 1970. -/
def dateOfDay (n : Int) : Date :=
  let (year, inYear) := yearAndDay (n + epochDay)
  let (month, day) := monthAndDay 1 (monthLengths year) inYear.toNat
  ⟨year, month, day⟩

example : dayNumber ⟨1970, 1, 1⟩ = 0 := by decide

example : dayNumber ⟨2000, 3, 1⟩ = dayNumber ⟨2000, 2, 30⟩ := by decide

example : dateOfDay (-1) = ⟨1969, 12, 31⟩ := by decide

end Calendar
end IssuerReadiness
