import IssuerReadiness.Proofs.Calendar
import Mathlib.Logic.Function.Iterate

/-!
# The days of the calendar in their order

The number of a day is given by a formula, and the formula is used without a look at the
days between.  Here it is compared with what a calendar on the wall does: it has an order
of its dates and a date after each, and it numbers the days by turning the page.

The comparison is made year by year and month by month.  The days of an existing date
before it in its year are fewer than the year has (`dayOfYear_lt`), and those of its
earlier months are an initial part of the months of the year, so a later year or month
has the greater number whatever the day.  That the numbers of existing dates are ordered
as the dates are (`dayNumber_lt_of_before`) makes them different for different dates, which the
formula alone does not show: it also numbers the days that a month does not have.

* `Date.Before` --- the order of dates, with `dayNumber_lt_of_before`.
* `Date.next` --- the day after, with `dayNumber_next`.
* `Date.DaysFromEpoch` --- the days counted one by one, with `daysFromEpoch_iff`.
-/

namespace IssuerReadiness
namespace Calendar

/-! ## The days of a year before a date -/

theorem daysOf_take_succ {lengths : List Nat} {i length : Nat} (h : lengths[i]? = some length) :
    daysOf (lengths.take (i + 1)) = daysOf (lengths.take i) + length := by
  induction lengths generalizing i with
  | nil => simp at h
  | cons first rest ih =>
    cases i with
    | zero => simp_all
    | succ i =>
      rw [List.take_succ_cons, List.take_succ_cons, daysOf_cons, daysOf_cons,
        ih (by simpa using h)]
      omega

theorem daysOf_take_mono (lengths : List Nat) {i j : Nat} (h : i ≤ j) :
    daysOf (lengths.take i) ≤ daysOf (lengths.take j) := by
  induction lengths generalizing i j with
  | nil => simp
  | cons first rest ih =>
    cases i with
    | zero => simp
    | succ i =>
      obtain ⟨k, rfl⟩ : ∃ k, j = k + 1 := ⟨j - 1, by omega⟩
      have hrest := ih (i := i) (j := k) (by omega)
      rw [List.take_succ_cons, List.take_succ_cons, daysOf_cons, daysOf_cons]
      omega

theorem length_monthLengths (year : Int) : (monthLengths year).length = 12 := rfl

theorem daysBeforeMonth_succ (year : Int) {month : Nat} (hone : 1 ≤ month) (htwelve : month ≤ 12) :
    daysBeforeMonth year (month + 1) = daysBeforeMonth year month + monthLength year month := by
  have hlt : month - 1 < (monthLengths year).length := by rw [length_monthLengths]; omega
  have hlength : (monthLengths year)[month - 1]? = some (monthLength year month) := by
    rw [monthLength, List.getElem?_eq_getElem hlt, Option.getD_some]
  have hindex : month + 1 - 1 = month - 1 + 1 := by omega
  rw [daysBeforeMonth_eq_daysOf, daysBeforeMonth_eq_daysOf, hindex, daysOf_take_succ hlength]

theorem daysBeforeMonth_mono (year : Int) {m n : Nat} (h : m ≤ n) :
    daysBeforeMonth year m ≤ daysBeforeMonth year n :=
  daysOf_take_mono _ (by omega)

/-- The months of a year together are the year. -/
theorem daysBeforeMonth_thirteen (year : Int) :
    (daysBeforeMonth year 13 : Int) = yearLength year := by
  rw [← daysOf_monthLengths, daysBeforeMonth_eq_daysOf, List.take_of_length_le (Nat.le_refl 12)]

theorem monthLength_pos (year : Int) {month : Nat} (hone : 1 ≤ month) (htwelve : month ≤ 12) :
    1 ≤ monthLength year month := by
  obtain ⟨i, rfl⟩ : ∃ i, month = i + 1 := ⟨month - 1, by omega⟩
  have hi : i < 12 := by omega
  unfold monthLength monthLengths
  rw [Nat.add_sub_cancel]
  generalize isLeap year = leap
  clear hone htwelve
  revert leap i
  decide

/-- The number of days of its year before a date. -/
def dayOfYear (d : Date) : Nat :=
  daysBeforeMonth d.year d.month + (d.day - 1)

theorem dayNumber_eq {d : Date} (h : 1 ≤ d.day) :
    dayNumber d = daysBeforeYear d.year + dayOfYear d - epochDay := by
  unfold dayNumber dayOfYear
  omega

/-- An existing date lies in its month. -/
theorem dayOfYear_lt_month {d : Date} (h : d.Exists) :
    dayOfYear d < daysBeforeMonth d.year (d.month + 1) := by
  obtain ⟨hone, htwelve, hday, hlength⟩ := h
  rw [daysBeforeMonth_succ d.year hone htwelve, dayOfYear]
  omega

/-- An existing date lies in its year. -/
theorem dayOfYear_lt {d : Date} (h : d.Exists) : (dayOfYear d : Int) < yearLength d.year := by
  have hmonth := dayOfYear_lt_month h
  have hlast := daysBeforeMonth_mono d.year (show d.month + 1 ≤ 13 by have := h.2.1; omega)
  rw [← daysBeforeMonth_thirteen]
  omega

/-! ## The order of dates -/

/-- A date comes before another one: in an earlier year, in an earlier month of the same
year, or on an earlier day of the same month. -/
def Date.Before (d e : Date) : Prop :=
  d.year < e.year ∨ d.year = e.year ∧
    (d.month < e.month ∨ d.month = e.month ∧ d.day < e.day)

theorem Date.before_or_eq_or_before (d e : Date) : d.Before e ∨ d = e ∨ e.Before d := by
  obtain ⟨year, month, day⟩ := d
  obtain ⟨year', month', day'⟩ := e
  simp only [Date.Before, Date.mk.injEq]
  omega

/-- **The days are numbered in the order of their dates.** -/
theorem dayNumber_lt_of_before {d e : Date} (hd : d.Exists) (he : e.Exists) (h : d.Before e) :
    dayNumber d < dayNumber e := by
  rw [dayNumber_eq hd.2.2.1, dayNumber_eq he.2.2.1]
  rcases h with hyear | ⟨hyear, hmonth | ⟨hmonth, hday⟩⟩
  · have hlt := dayOfYear_lt hd
    have hsucc := daysBeforeYear_succ d.year
    have hmono := daysBeforeYear_mono (show d.year + 1 ≤ e.year by omega)
    omega
  · have hlt := dayOfYear_lt_month hd
    have hmono := daysBeforeMonth_mono e.year (show d.month + 1 ≤ e.month by omega)
    have hstart : daysBeforeMonth e.year e.month ≤ dayOfYear e := Nat.le_add_right _ _
    rw [hyear] at hlt ⊢
    omega
  · have hone := hd.2.2.1
    unfold dayOfYear
    rw [hyear, hmonth]
    omega

/-- No two dates that the calendar has are the same day. -/
theorem eq_of_dayNumber_eq {d e : Date} (hd : d.Exists) (he : e.Exists)
    (h : dayNumber d = dayNumber e) : d = e := by
  rcases d.before_or_eq_or_before e with hbefore | heq | hbefore
  · have := dayNumber_lt_of_before hd he hbefore
    omega
  · exact heq
  · have := dayNumber_lt_of_before he hd hbefore
    omega

/-! ## From day to day -/

/-- The day after a date: the next day of the month, or else the first of the next month,
or else the first of the next year. -/
def Date.next (d : Date) : Date :=
  if d.day < monthLength d.year d.month then ⟨d.year, d.month, d.day + 1⟩
  else if d.month < 12 then ⟨d.year, d.month + 1, 1⟩
  else ⟨d.year + 1, 1, 1⟩

theorem exists_next {d : Date} (h : d.Exists) : d.next.Exists := by
  obtain ⟨hone, htwelve, hday, hlength⟩ := h
  unfold Date.next
  split
  · exact ⟨hone, htwelve, by dsimp only; omega, by assumption⟩
  · split
    · exact ⟨by dsimp only; omega, by assumption, Nat.le_refl 1,
        monthLength_pos _ (by dsimp only; omega) (by assumption)⟩
    · exact ⟨Nat.le_refl 1, show 1 ≤ 12 by decide, Nat.le_refl 1,
        monthLength_pos _ (Nat.le_refl 1) (show 1 ≤ 12 by decide)⟩

/-- The day after has the next number. -/
theorem dayNumber_next {d : Date} (h : d.Exists) : dayNumber d.next = dayNumber d + 1 := by
  have hone : 1 ≤ d.next.day := (exists_next h).2.2.1
  obtain ⟨hmonth, htwelve, hday, hlength⟩ := h
  rw [dayNumber_eq hone, dayNumber_eq hday]
  have hsucc := daysBeforeMonth_succ d.year hmonth htwelve
  unfold Date.next
  split
  · unfold dayOfYear
    dsimp only
    omega
  · split
    · unfold dayOfYear
      dsimp only
      omega
    · -- the last day of December
      have hthirteen : d.month + 1 = 13 := by omega
      have hyear := daysBeforeMonth_thirteen d.year
      have hnext := daysBeforeYear_succ d.year
      have hfirst : daysBeforeMonth (d.year + 1) 1 = 0 := rfl
      rw [hthirteen] at hsucc
      unfold dayOfYear
      dsimp only
      rw [hfirst]
      omega

theorem iterate_next {d : Date} (h : d.Exists) (n : Nat) :
    (Date.next^[n] d).Exists ∧ dayNumber (Date.next^[n] d) = dayNumber d + n := by
  induction n with
  | zero => exact ⟨h, by simp⟩
  | succ n ih =>
    rw [Function.iterate_succ_apply']
    refine ⟨exists_next ih.1, ?_⟩
    rw [dayNumber_next ih.1, ih.2]
    omega

/-- The first day of 1970. -/
def Date.epoch : Date := ⟨1970, 1, 1⟩

theorem exists_epoch : Date.epoch.Exists := by decide

theorem dayNumber_epoch : dayNumber Date.epoch = 0 := by decide

/-- The days from 1 January 1970 to a date, counted from day to day: forward from the
first of 1970, or forward from the date, and then with a minus. -/
inductive Date.DaysFromEpoch (d : Date) : Int → Prop where
  | after (n : Nat) (h : Date.next^[n] Date.epoch = d) : d.DaysFromEpoch n
  | before (n : Nat) (h : Date.next^[n] d = Date.epoch) : d.DaysFromEpoch (-n)

/-- **The number of a day is the count of the days** from 1 January 1970 to it. -/
theorem daysFromEpoch_iff {d : Date} (hd : d.Exists) (n : Int) :
    d.DaysFromEpoch n ↔ n = dayNumber d := by
  have hepoch := iterate_next exists_epoch
  rw [dayNumber_epoch] at hepoch
  constructor
  · intro h
    cases h with
    | after n h =>
      rw [← h, (hepoch n).2]
      omega
    | before n h =>
      have hnumber := (iterate_next hd n).2
      rw [h, dayNumber_epoch] at hnumber
      omega
  · rintro rfl
    rcases Int.le_total 0 (dayNumber d) with hpos | hneg
    · obtain ⟨n, hn⟩ := Int.eq_ofNat_of_zero_le hpos
      rw [hn]
      exact .after n (eq_of_dayNumber_eq (hepoch n).1 hd (by rw [(hepoch n).2, hn]; omega))
    · obtain ⟨n, hn⟩ := Int.eq_ofNat_of_zero_le (show 0 ≤ -dayNumber d by omega)
      have hcount : dayNumber d = -(n : Int) := by omega
      have hiterate := iterate_next hd n
      rw [hcount]
      exact .before n (eq_of_dayNumber_eq hiterate.1 exists_epoch (by
        rw [hiterate.2, dayNumber_epoch]
        omega))

end Calendar
end IssuerReadiness
