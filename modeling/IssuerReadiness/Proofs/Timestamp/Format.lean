import IssuerReadiness.Proofs.Text
import IssuerReadiness.Proofs.Timestamp

/-!
# The format and the liberties that are taken with it

The format of time stamps is `YYYY-MM-DDTHH:MM:SSZ`, with a point and digits before the `Z`
if there is a fraction of a second, for dates that the calendar has.  Nothing that is written
is outside of it, but more than that is read.

All texts that are read are known by their spellings, and each of them has one.  So the
liberties of a text are those of its spelling: something left out before the year or the
day, a field with less digits than it has room for, a small `t`, a day that its month does
not have, and in the closing blanks, a point without digits, or any text behind the `Z`.  A
text that is read is in the format exactly if it takes none of them.

* `InFormat` --- the texts of the format.
* `Spelling.Full`, `IsFullClosing` --- spellings and closings without liberties.
* `read_iff_spelled` --- what is read, and which part of it is in the format.
-/

namespace IssuerReadiness
namespace Timestamp

/-- Digits are written for their number. -/
theorem padded_ofDigits {width : Nat} {ds : List Char} (h : ∀ c ∈ ds, Text.isDigit c = true)
    (hlength : ds.length = width) : Text.padded width (Text.ofDigits ds) = ds := by
  subst hlength
  rw [padded_eq_digits (Text.ofDigits_lt h), Text.digits_ofDigits h]

/-! ## The format -/

/-- A date that the calendar has, in a year of four digits, and a time of day; the second 60
is the one that is put in at the end of some days. -/
structure Fields.OnCalendar (f : Fields) : Prop where
  date : f.date.Exists
  year : 0 ≤ f.date.year ∧ f.date.year ≤ 9999
  hour : f.hour ≤ 23
  minute : f.minute ≤ 59
  sec : f.sec ≤ 60

theorem Fields.OnCalendar.fit {f : Fields} (h : f.OnCalendar) : f.Fit := by
  obtain ⟨⟨hone, htwelve, hday, hlength⟩, hyear, hhour, hminute, hsec⟩ := h
  exact ⟨hyear, ⟨hone, htwelve⟩, ⟨hday, Nat.le_trans hlength (monthLength_le _ _)⟩, hhour,
    hminute, hsec⟩

/-- A closing of the format: a point and one or more digits, or nothing, then `Z` and the
end. -/
def IsFullClosing (closing : List Char) : Prop :=
  ∃ fraction, IsFraction fraction ∧ fraction ≠ ['.'] ∧ closing = fraction ++ ['Z']

/-- The texts of the format. -/
def InFormat (s : String) : Prop :=
  ∃ (f : Fields) (closing : List Char), f.OnCalendar ∧ IsFullClosing closing ∧
    s.toList = f.spelling.text ++ closing

/-- A spelling in which nothing is left out and every field has all its digits, of a date
that the calendar has. -/
structure Spelling.Full (w : Spelling) : Prop where
  lead : w.lead = []
  year : w.year.length = 4
  month : w.month.length = 2
  gap : w.gap = []
  day : w.day.length = 2
  divider : w.divider = 'T'
  hour : w.hour.length = 2
  minute : w.minute.length = 2
  sec : w.sec.length = 2
  date : w.fields.date.Exists

theorem IsFullClosing.isClosing {closing : List Char} (h : IsFullClosing closing) :
    IsClosing closing := by
  obtain ⟨fraction, hfraction, -, rfl⟩ := h
  exact ⟨[], fraction, [], nofun, hfraction, rfl⟩

theorem Fields.OnCalendar.full {f : Fields} (h : f.OnCalendar) : f.spelling.Full := by
  obtain ⟨⟨y, hy, hyear⟩, hmonth, hday, hhour, hminute, hsec⟩ := h.fit.room
  have hfour : (Text.padded 4 f.date.year).length = 4 := by
    rw [hy]
    exact length_padded hyear
  exact {
    lead := rfl
    year := hfour
    month := length_padded hmonth
    gap := rfl
    day := length_padded hday
    divider := rfl
    hour := length_padded hhour
    minute := length_padded hminute
    sec := length_padded hsec
    date := h.fit.fields_spelling.symm ▸ h.date }

/-- A full spelling is the one that is written of its date and time. -/
theorem Spelling.Full.eq_spelling {w : Spelling} (h : w.Full) (hw : w.Readable) :
    w.fields.spelling = w := by
  have hyear := padded_ofDigits hw.year.digits h.year
  have hmonth := padded_ofDigits hw.month.digits h.month
  have hday := padded_ofDigits hw.day.digits h.day
  have hhour := padded_ofDigits hw.hour.digits h.hour
  have hminute := padded_ofDigits hw.minute.digits h.minute
  have hsec := padded_ofDigits hw.sec.digits h.sec
  obtain ⟨hlead, -, -, hgap, -, hdivider, -, -, -, -⟩ := h
  cases w
  simp only [Fields.spelling, Spelling.fields, Spelling.mk.injEq] at *
  exact ⟨hlead.symm, hyear, hmonth, hgap.symm, hday, hdivider.symm, hhour, hminute, hsec⟩

theorem Spelling.Full.onCalendar {w : Spelling} (h : w.Full) (hw : w.Readable) :
    w.fields.OnCalendar where
  date := h.date
  year := ⟨Int.natCast_nonneg _, Int.ofNat_le.2 hw.year.range.2⟩
  hour := hw.hour.range.2
  minute := hw.minute.range.2
  sec := hw.sec.range.2

/-- A text of the format is spelled as it is written. -/
theorem Fields.OnCalendar.spells {f : Fields} (h : f.OnCalendar) {closing : List Char}
    (hclosing : IsFullClosing closing) {s : String}
    (htext : s.toList = f.spelling.text ++ closing) : f.spelling.Spells closing s :=
  ⟨htext, h.fit.readable, hclosing.isClosing⟩

/-- **A text that is read is in the format exactly if it takes no liberties.** -/
theorem Spelling.Spells.inFormat_iff {w : Spelling} {closing : List Char} {s : String}
    (h : w.Spells closing s) : InFormat s ↔ w.Full ∧ IsFullClosing closing := by
  constructor
  · rintro ⟨f, closing', hf, hclosing', htext⟩
    obtain ⟨rfl, rfl⟩ := h.unique (hf.spells hclosing' htext)
    exact ⟨hf.full, hclosing'⟩
  · rintro ⟨hfull, hclosing⟩
    refine ⟨w.fields, closing, hfull.onCalendar h.readable, hclosing, ?_⟩
    rw [hfull.eq_spelling h.readable]
    exact h.text

/-- **What is read, and which part of it is in the format.**  A text is read exactly if it is
spelled, with the one exception of the second whose number means failure; all other texts are
refused.  It is read as the second that is spelled, if this is on the clock.  A text with a
spelling is in the format exactly if this takes no liberties, and every text of the format
has one. -/
theorem read_iff_spelled (s : String) :
    ((parse s).isSome = true ↔ ∃ (w : Spelling) (closing : List Char), w.Spells closing s ∧
      w.fields.seconds ≠ -1) ∧
    (∀ (w : Spelling) (closing : List Char), w.Spells closing s → w.fields.seconds ≠ -1 →
      OnClock (w.fields.seconds * second) → parse s = some (w.fields.seconds * second)) ∧
    (∀ (w : Spelling) (closing : List Char), w.Spells closing s →
      (InFormat s ↔ w.Full ∧ IsFullClosing closing)) ∧
    (InFormat s → ∃ (w : Spelling) (closing : List Char), w.Spells closing s) := by
  have hread : ∀ (w : Spelling) (closing : List Char), w.Spells closing s →
      w.fields.seconds ≠ -1 → parse s = some (w.fields.seconds * second) :=
    fun w closing h hne => parse_eq_some_iff.2 ⟨w, closing, h, hne, rfl⟩
  refine ⟨⟨fun h => ?_, fun ⟨w, closing, h, hne⟩ => ?_⟩,
    fun w closing h hne _ => hread w closing h hne, fun w closing h => h.inFormat_iff, ?_⟩
  · obtain ⟨t, ht⟩ := Option.isSome_iff_exists.1 h
    obtain ⟨w, closing, hspells, hne, -⟩ := parse_eq_some_iff.1 ht
    exact ⟨w, closing, hspells, hne⟩
  · rw [hread w closing h hne]
    rfl
  rintro ⟨f, closing, hf, hclosing, htext⟩
  exact ⟨f.spelling, closing, hf.spells hclosing htext⟩

/-- The offset behind the `Z` is not looked at. -/
theorem parse_offsetBehindZ :
    parse "2026-01-02T03:04:05Z+02:00" = some 1767323045000000000 ∧
      ¬ InFormat "2026-01-02T03:04:05Z+02:00" := by
  refine ⟨by decide, ?_⟩
  rintro ⟨f, closing, -, ⟨fraction, -, -, rfl⟩, htext⟩
  have hlast := congrArg List.getLast? htext
  rw [← List.append_assoc, List.getLast?_concat] at hlast
  revert hlast
  decide

end Timestamp
end IssuerReadiness
