import IssuerReadiness.Proofs.Calendar.Succession
import IssuerReadiness.Proofs.Timestamp.Format

/-!
# What a time stamp stands for

A time stamp of the format stands for a number of seconds from the start of 1970, and this
number is 86400 for every day from 1 January 1970 to its date and what the time of day adds
to that.  The days are those of a calendar on the wall, counted one by one; that the number
of a date by the formula is their count is known from the succession of the dates.

Nothing may be missing from the end.  A text that stops before the `Z`, or that goes on with
an offset from UTC in its place, is refused, with or without a fraction: what closes a time
stamp is the first character behind the fraction (`closes_append`), and it must be the `Z`.
-/

namespace IssuerReadiness
namespace Timestamp

/-- The second before 1970. -/
def Fields.lastOf1969 : Fields := ⟨⟨1969, 12, 31⟩, 23, 59, 59⟩

/-- No other date and time of day is the second whose number means failure. -/
theorem Fields.OnCalendar.seconds_ne {f : Fields} (h : f.OnCalendar) (hsec : f.sec ≤ 59)
    (hne : f ≠ Fields.lastOf1969) : f.seconds ≠ -1 := by
  intro hseconds
  obtain ⟨hdate, -, hhour, hminute, -⟩ := h
  unfold Fields.seconds at hseconds
  have hday : Calendar.dayNumber f.date = Calendar.dayNumber ⟨1969, 12, 31⟩ := by
    have hlast : Calendar.dayNumber ⟨1969, 12, 31⟩ = -1 := by decide
    omega
  have htime : f.hour = 23 ∧ f.minute = 59 ∧ f.sec = 59 := by
    have hlast : Calendar.dayNumber ⟨1969, 12, 31⟩ = -1 := by decide
    omega
  refine hne ?_
  obtain ⟨date, hour, minute, sec⟩ := f
  obtain ⟨rfl, rfl, rfl⟩ := htime
  obtain rfl := Calendar.eq_of_dayNumber_eq hdate (by decide) hday
  rfl

/-- **A time stamp stands for the seconds that its date and time say.**  The days from
1 January 1970 to the date are counted from day to day, and there is one count of them.  With
`Z` behind the seconds or behind a fraction of any length, the text is read as that many days
and the time of day; without the `Z`, or with an offset in its place, it is refused. -/
theorem parse_spelling {f : Fields} (hdate : f.date.Exists)
    (hyear : 1678 ≤ f.date.year ∧ f.date.year ≤ 2261) (hhour : f.hour ≤ 23)
    (hminute : f.minute ≤ 59) (hsec : f.sec ≤ 59) :
    (∃ days : Int, (∀ n, f.date.DaysFromEpoch n ↔ n = days) ∧
      (f ≠ Fields.lastOf1969 → ∀ fraction, IsFraction fraction →
        parse (String.ofList (f.spelling.text ++ (fraction ++ ['Z']))) =
          some ((86400 * days + 3600 * f.hour + 60 * f.minute + f.sec) * second))) ∧
    ∀ fraction, IsFraction fraction →
      parse (String.ofList (f.spelling.text ++ fraction)) = none ∧
      ∀ sign ∈ ['+', '-'], ∀ offset,
        parse (String.ofList (f.spelling.text ++ (fraction ++ sign :: offset))) = none := by
  have hf : f.OnCalendar := ⟨hdate, by omega, hhour, hminute, by omega⟩
  refine ⟨⟨Calendar.dayNumber f.date, Calendar.daysFromEpoch_iff hdate, ?_⟩, ?_⟩
  · intro hne fraction hfraction
    have hzone : StopsFraction ['Z'] := stopsFraction_cons (by decide) []
    rw [hf.fit.parse_append hfraction hzone, if_pos ⟨rfl, hf.seconds_ne hsec hne⟩, Fields.seconds]
  · intro fraction hfraction
    constructor
    · have hend : parse (String.ofList (f.spelling.text ++ (fraction ++ []))) = _ :=
        hf.fit.parse_append hfraction stopsFraction_nil
      rw [List.append_nil] at hend
      rw [hend, if_neg]
      rintro ⟨hhead, -⟩
      cases hhead
    · intro sign hsign offset
      have hsigns : (Text.isBlank sign = false ∧ Text.isDigit sign = false ∧ sign ≠ '.') ∧
          sign ≠ 'Z' := by
        simp only [List.mem_cons, List.not_mem_nil, or_false] at hsign
        rcases hsign with rfl | rfl <;> decide
      obtain ⟨hstop, hz⟩ := hsigns
      rw [hf.fit.parse_append hfraction (stopsFraction_cons hstop offset), if_neg]
      rintro ⟨hhead, -⟩
      exact hz (Option.some.inj hhead)

/-- A time of day on a leap day. -/
def Fields.onLeapDay : Fields := ⟨⟨2000, 2, 29⟩, 12, 30, 5⟩

theorem parse_onLeapDay :
    (Fields.onLeapDay.date.Exists ∧ Fields.onLeapDay ≠ Fields.lastOf1969) ∧
      (∃ days : Int, (∀ n, Fields.onLeapDay.date.DaysFromEpoch n ↔ n = days) ∧
        parse "2000-02-29T12:30:05.250Z" = some ((86400 * days + 45005) * second)) ∧
      parse "2000-02-29T12:30:05.250" = none ∧ parse "2000-02-29T12:30:05.250+01:00" = none := by
  have hexists : Fields.onLeapDay.date.Exists := by decide
  have hne : Fields.onLeapDay ≠ Fields.lastOf1969 := by decide
  have hdigits : ['2', '5', '0'].all Text.isDigit = true := by decide
  have hfraction : IsFraction ".250".toList := .digits (List.all_eq_true.1 hdigits)
  obtain ⟨⟨days, hdays, hread⟩, hrefused⟩ :=
    parse_spelling hexists (by decide) (by decide) (by decide) (by decide)
  obtain ⟨hopen, hoffset⟩ := hrefused _ hfraction
  refine ⟨⟨hexists, hne⟩, ⟨days, hdays, (hread hne _ hfraction).trans ?_⟩, hopen,
    hoffset '+' (by decide) "01:00".toList⟩
  show some ((86400 * days + 3600 * 12 + 60 * 30 + 5) * second) = _
  congr 2
  omega

end Timestamp
end IssuerReadiness
