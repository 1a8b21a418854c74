import IssuerReadiness.Calendar

/-!
# Days and dates

The date of a day is found by division through the cycles of the calendar, and the day
of a date by counting leap years.  This module proves that the two fit: the date of a
day exists (`exists_dateOfDay`), and its day number is that day (`dayNumber_dateOfDay`).

The division leaves a day its place in each cycle (`exists_places`): a cycle of 400
years, a century of that, four years of the century, a single year and a day of it.
The last century of a cycle and the last year of four are longer than the others, which
is why the quotients are cut off at 3.  The places are all that the leap rule needs to
know: the 366th day of a year is in the last of four years, and if these are the last
of a century, it is the last of its cycle.
-/

namespace IssuerReadiness
namespace Calendar

/-- The number of days of a year. -/
def yearLength (year : Int) : Int :=
  if isLeap year then 366 else 365

theorem isLeap_iff (year : Int) :
    isLeap year = true ↔ year % 4 = 0 ∧ (year % 100 ≠ 0 ∨ year % 400 = 0) := by
  simp [isLeap]

/-- The number of days of a run of months. -/
def daysOf (lengths : List Nat) : Nat :=
  lengths.foldl (· + ·) 0

@[simp] theorem daysOf_nil : daysOf [] = 0 := rfl

@[simp] theorem daysOf_cons (length : Nat) (rest : List Nat) :
    daysOf (length :: rest) = length + daysOf rest := by
  unfold daysOf
  rw [List.foldl_cons, Nat.add_comm 0 length, List.foldl_assoc]

theorem daysBeforeMonth_eq_daysOf (year : Int) (month : Nat) :
    daysBeforeMonth year month = daysOf ((monthLengths year).take (month - 1)) := rfl

/-- The days of a year are those of its months. -/
theorem daysOf_monthLengths (year : Int) :
    (daysOf (monthLengths year) : Int) = yearLength year := by
  unfold monthLengths yearLength
  cases isLeap year <;> decide

/-! ## Years -/

/-- The places of a day in the cycles of the calendar: the cycle `c`, its century `k`,
the four years `f` of that, the single year `s`, and the day `r` of the year. -/
theorem exists_places (n : Int) :
    ∃ c k f s r : Int, yearAndDay n = (400 * c + 100 * k + 4 * f + s + 1, r) ∧
      n = 146097 * c + 36524 * k + 1461 * f + 365 * s + r ∧
      (0 ≤ k ∧ k ≤ 3) ∧ (0 ≤ f ∧ f ≤ 24) ∧ (0 ≤ s ∧ s ≤ 3) ∧ (0 ≤ r ∧ r ≤ 365) ∧
      (r = 365 → s = 3 ∧ (f = 24 → k = 3)) := by
  obtain ⟨k, hk⟩ : ∃ k, k = min (n % 146097 / 36524) 3 := ⟨_, rfl⟩
  obtain ⟨f, hf⟩ : ∃ f, f = (n % 146097 - 36524 * k) / 1461 := ⟨_, rfl⟩
  obtain ⟨q, hq⟩ : ∃ q, q = (n % 146097 - 36524 * k) % 1461 := ⟨_, rfl⟩
  obtain ⟨s, hs⟩ : ∃ s, s = min (q / 365) 3 := ⟨_, rfl⟩
  have hk' : 0 ≤ k ∧ k ≤ 3 := by omega
  have hcentury : 0 ≤ n % 146097 - 36524 * k ∧ n % 146097 - 36524 * k ≤ 36524 ∧
      (n % 146097 - 36524 * k = 36524 → k = 3) := by omega
  have hf' : 0 ≤ f ∧ f ≤ 24 := by omega
  have hq' : n % 146097 - 36524 * k = 1461 * f + q ∧ 0 ≤ q ∧ q < 1461 := by omega
  have hs' : 0 ≤ s ∧ s ≤ 3 := by omega
  refine ⟨n / 146097, k, f, s, q - 365 * s, ?_, by omega, hk', hf', hs', by omega, by omega⟩
  rw [hs, hq, hf, hk]
  rfl

/-- The first day of a year by the places of the year in the cycles. -/
theorem daysBeforeYear_places {c k f s : Int} (hk : 0 ≤ k ∧ k ≤ 3) (hf : 0 ≤ f ∧ f ≤ 24)
    (hs : 0 ≤ s ∧ s ≤ 3) :
    daysBeforeYear (400 * c + 100 * k + 4 * f + s + 1) =
      146097 * c + 36524 * k + 1461 * f + 365 * s := by
  have hfours : (400 * c + 100 * k + 4 * f + s + 1 - 1) / 4 = 100 * c + 25 * k + f := by omega
  have hcenturies : (400 * c + 100 * k + 4 * f + s + 1 - 1) / 100 = 4 * c + k := by omega
  have hcycles : (400 * c + 100 * k + 4 * f + s + 1 - 1) / 400 = c := by omega
  unfold daysBeforeYear
  rw [hfours, hcenturies, hcycles]
  omega

/-- A day is counted from the start of its year, and within it. -/
theorem yearAndDay_spec (n : Int) :
    daysBeforeYear (yearAndDay n).1 + (yearAndDay n).2 = n ∧
      0 ≤ (yearAndDay n).2 ∧ (yearAndDay n).2 < yearLength (yearAndDay n).1 := by
  obtain ⟨c, k, f, s, r, hplaces, hn, hk, hf, hs, hr, hlast⟩ := exists_places n
  rw [hplaces]
  refine ⟨by rw [daysBeforeYear_places hk hf hs]; omega, hr.1, ?_⟩
  unfold yearLength
  split
  · omega
  · rename_i hleap
    rw [isLeap_iff] at hleap
    omega

/-! ## Months -/

/-- The month and the day of a month stand for the day of the year that they were taken
from. -/
theorem monthAndDay_spec (m : Nat) (lengths : List Nat) {d : Nat} (hd : d < daysOf lengths) :
    ∃ i, (monthAndDay m lengths d).1 = m + i ∧
      1 ≤ (monthAndDay m lengths d).2 ∧
      (∃ length, lengths[i]? = some length ∧ (monthAndDay m lengths d).2 ≤ length) ∧
      daysOf (lengths.take i) + ((monthAndDay m lengths d).2 - 1) = d := by
  induction lengths generalizing m d with
  | nil => simp at hd
  | cons length rest ih =>
    rw [daysOf_cons] at hd
    unfold monthAndDay
    split
    · exact ⟨0, by simp, by simp, ⟨length, by simp, by omega⟩, by simp⟩
    · obtain ⟨i, hmonth, hday, hlength, hsum⟩ := ih (m + 1) (d := d - length) (by omega)
      refine ⟨i + 1, by omega, hday, by simpa using hlength, ?_⟩
      rw [List.take_succ_cons, daysOf_cons]
      omega

/-! ## Dates -/

theorem dateOfDay_eq {n year inYear : Int} (h : yearAndDay (n + epochDay) = (year, inYear)) :
    dateOfDay n = ⟨year, (monthAndDay 1 (monthLengths year) inYear.toNat).1,
      (monthAndDay 1 (monthLengths year) inYear.toNat).2⟩ := by
  rw [dateOfDay, h]

/-- The date of a day, by the year and the place `i` of its month, counted from 0. -/
theorem dateOfDay_spec (n : Int) :
    ∃ i length, (monthLengths (dateOfDay n).year)[i]? = some length ∧
      (dateOfDay n).month = 1 + i ∧ (1 ≤ (dateOfDay n).day ∧ (dateOfDay n).day ≤ length) ∧
      daysBeforeYear (dateOfDay n).year +
        (daysOf ((monthLengths (dateOfDay n).year).take i) + ((dateOfDay n).day - 1)) =
          n + epochDay := by
  obtain ⟨hday, hpos, hlt⟩ := yearAndDay_spec (n + epochDay)
  rcases hsplit : yearAndDay (n + epochDay) with ⟨year, inYear⟩
  rw [hsplit] at hday hpos hlt
  dsimp only at hday hpos hlt
  rw [← daysOf_monthLengths] at hlt
  rw [dateOfDay_eq hsplit]
  obtain ⟨i, hmonth, hone, ⟨length, hlength, hle⟩, hsum⟩ :=
    monthAndDay_spec 1 (monthLengths year) (d := inYear.toNat) (by omega)
  exact ⟨i, length, hlength, hmonth, ⟨hone, hle⟩, by dsimp only; omega⟩

/-- The date of a day is one that the calendar has. -/
theorem exists_dateOfDay (n : Int) : (dateOfDay n).Exists := by
  obtain ⟨i, length, hlength, hmonth, hday, -⟩ := dateOfDay_spec n
  have hi : i < 12 := (List.getElem?_eq_some_iff.1 hlength).1
  refine ⟨by omega, by omega, hday.1, ?_⟩
  rw [monthLength, hmonth, Nat.add_sub_cancel_left, hlength]
  exact hday.2

/-- **The day number of the date of a day is that day.** -/
theorem dayNumber_dateOfDay (n : Int) : dayNumber (dateOfDay n) = n := by
  obtain ⟨i, length, -, hmonth, -, hn⟩ := dateOfDay_spec n
  rw [dayNumber, daysBeforeMonth_eq_daysOf, hmonth, Nat.add_sub_cancel_left]
  omega

/-! ## The years of a span of days -/

theorem daysBeforeYear_mono {y z : Int} (h : y ≤ z) : daysBeforeYear y ≤ daysBeforeYear z := by
  unfold daysBeforeYear
  omega

theorem daysBeforeYear_succ (y : Int) :
    daysBeforeYear (y + 1) = daysBeforeYear y + yearLength y := by
  unfold yearLength
  split <;> rename_i hleap <;> rw [isLeap_iff] at hleap <;> unfold daysBeforeYear <;> omega

/-- A day that is not before the year `y` and before the year after `z` has a date
in the years from `y` to `z`. -/
theorem year_dateOfDay {n y z : Int} (hy : daysBeforeYear y ≤ n + epochDay)
    (hz : n + epochDay < daysBeforeYear (z + 1)) :
    y ≤ (dateOfDay n).year ∧ (dateOfDay n).year ≤ z := by
  obtain ⟨hday, hpos, hlt⟩ := yearAndDay_spec (n + epochDay)
  rcases hsplit : yearAndDay (n + epochDay) with ⟨year, inYear⟩
  rw [hsplit] at hday hpos hlt
  rw [dateOfDay_eq hsplit]
  dsimp only at hday hpos hlt ⊢
  have hsucc := daysBeforeYear_succ year
  constructor
  · refine Int.not_lt.1 fun hlow => ?_
    have hmono := daysBeforeYear_mono (show year + 1 ≤ y by omega)
    omega
  · refine Int.not_lt.1 fun hhigh => ?_
    have hmono := daysBeforeYear_mono (show z + 1 ≤ year by omega)
    omega

end Calendar
end IssuerReadiness
