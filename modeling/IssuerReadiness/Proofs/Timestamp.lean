import IssuerReadiness.Proofs.Calendar
import IssuerReadiness.Proofs.Timestamp.Spelling

/-!
# Reading time stamps that were written

A written time stamp is read back as the second it was cut to, if its year has four
digits and the second is not the one before 1970, which stands for failure.

What is written of a date and a time of day is one of its spellings, the one in which every
field has all its digits and nothing is left out (`Fields.spelling`).  That it is read is
therefore an instance of what is known of spellings.

* `Fields.Fit.parse_append` --- what is read of a date and a time of day, a fraction and what
  follows it.
* `Fields.ofInstant`, `toList_format` --- the date and the time of day that are written of an
  instant.
* `parse_format` --- what is read of the text of an instant on the clock.
-/

namespace IssuerReadiness
namespace Timestamp

/-! ## Fields -/

/-- A number that fits its width is written with its digits. -/
theorem padded_eq_digits {width n : Nat} (h : n < Nat.pow 10 width) :
    Text.padded width n = Text.digits width n := by
  have hfits : (0 : Int) ≤ n ∧ (n : Int) < Nat.pow 10 width := ⟨by omega, by omega⟩
  rw [Text.padded, if_pos hfits, Int.toNat_natCast]

theorem length_padded {width n : Nat} (h : n < Nat.pow 10 width) :
    (Text.padded width n).length = width := by
  rw [padded_eq_digits h, Text.length_digits]

theorem ofDigits_padded {width n : Nat} (h : n < Nat.pow 10 width) :
    Text.ofDigits (Text.padded width n) = n := by
  rw [padded_eq_digits h, Text.ofDigits_digits, Nat.mod_eq_of_lt h]

/-- A number in the range of a field that fits its width is written as such a field. -/
theorem isField_padded {width lo hi n : Nat} (hwidth : 0 < width) (hn : n < Nat.pow 10 width)
    (hlo : lo ≤ n) (hhi : n ≤ hi) : IsField width lo hi (Text.padded width n) := by
  have hlength := length_padded hn
  refine ⟨?_, ?_, by omega, ?_⟩
  · rw [padded_eq_digits hn]
    exact fun c hc => Text.isDigit_of_mem_digits hc
  · intro hnil
    rw [hnil, List.length_nil] at hlength
    omega
  · rw [ofDigits_padded hn]
    exact ⟨hlo, hhi⟩

/-! ## Time stamps -/

/-- The text of a date and a time of day. -/
def Fields.text (f : Fields) : List Char :=
  Text.padded 4 f.date.year ++ '-' :: (Text.padded 2 f.date.month ++ '-' ::
    (Text.padded 2 f.date.day ++ 'T' :: (Text.padded 2 f.hour ++ ':' ::
      (Text.padded 2 f.minute ++ ':' :: (Text.padded 2 f.sec ++ ['Z'])))))

/-- A date and a time of day that fit the fields of a time stamp. -/
structure Fields.Fit (f : Fields) : Prop where
  year : 0 ≤ f.date.year ∧ f.date.year ≤ 9999
  month : 1 ≤ f.date.month ∧ f.date.month ≤ 12
  day : 1 ≤ f.date.day ∧ f.date.day ≤ 31
  hour : f.hour ≤ 23
  minute : f.minute ≤ 59
  sec : f.sec ≤ 60

/-- A date and a time of day, spelled as they are written. -/
def Fields.spelling (f : Fields) : Spelling where
  year := Text.padded 4 f.date.year
  month := Text.padded 2 f.date.month
  day := Text.padded 2 f.date.day
  hour := Text.padded 2 f.hour
  minute := Text.padded 2 f.minute
  sec := Text.padded 2 f.sec

theorem Fields.spelling_text_append (f : Fields) (rest : List Char) :
    f.spelling.text ++ rest = Text.padded 4 f.date.year ++ '-' :: (Text.padded 2 f.date.month ++
      '-' :: (Text.padded 2 f.date.day ++ 'T' :: (Text.padded 2 f.hour ++ ':' ::
        (Text.padded 2 f.minute ++ ':' :: (Text.padded 2 f.sec ++ rest))))) := by
  simp [Fields.spelling, Spelling.text]

example : (Fields.spelling ⟨⟨2026, 1, 2⟩, 3, 4, 5⟩).text = "2026-01-02T03:04:05".toList := by
  decide

theorem Fields.text_eq (f : Fields) : f.text = f.spelling.text ++ ['Z'] :=
  (f.spelling_text_append ['Z']).symm

/-- The fields of a time stamp have room for the numbers. -/
theorem Fields.Fit.room {f : Fields} (h : f.Fit) :
    (∃ y : Nat, f.date.year = y ∧ y < Nat.pow 10 4) ∧ f.date.month < Nat.pow 10 2 ∧
      f.date.day < Nat.pow 10 2 ∧ f.hour < Nat.pow 10 2 ∧ f.minute < Nat.pow 10 2 ∧
        f.sec < Nat.pow 10 2 := by
  obtain ⟨hyear, hmonth, hday, hhour, hminute, hsec⟩ := h
  have hten2 : Nat.pow 10 2 = 100 := rfl
  have hten4 : Nat.pow 10 4 = 10000 := rfl
  obtain ⟨y, hy⟩ := Int.eq_ofNat_of_zero_le hyear.1
  exact ⟨⟨y, hy, by omega⟩, by omega, by omega, by omega, by omega, by omega⟩

theorem Fields.Fit.readable {f : Fields} (h : f.Fit) : f.spelling.Readable := by
  obtain ⟨⟨y, hy, hyear⟩, hmonth, hday, hhour, hminute, hsec⟩ := h.room
  have hfour : IsField 4 0 9999 (Text.padded 4 f.date.year) := by
    have hrange := h.year
    rw [hy]
    exact isField_padded (by decide) hyear (Nat.zero_le y) (by omega)
  exact {
    lead := nofun
    year := hfour
    month := isField_padded (by decide) hmonth h.month.1 h.month.2
    gap := ⟨nofun, Nat.zero_le 1⟩
    day := isField_padded (by decide) hday h.day.1 h.day.2
    divider := List.mem_cons_self
    hour := isField_padded (by decide) hhour (Nat.zero_le _) h.hour
    minute := isField_padded (by decide) hminute (Nat.zero_le _) h.minute
    sec := isField_padded (by decide) hsec (Nat.zero_le _) h.sec }

theorem Fields.Fit.length_sec {f : Fields} (h : f.Fit) : f.spelling.sec.length = 2 :=
  length_padded h.room.2.2.2.2.2

theorem Fields.Fit.fields_spelling {f : Fields} (h : f.Fit) : f.spelling.fields = f := by
  obtain ⟨⟨y, hy, hyear⟩, hmonth, hday, hhour, hminute, hsec⟩ := h.room
  simp only [Spelling.fields, Fields.spelling]
  rw [hy, ofDigits_padded hyear, ofDigits_padded hmonth, ofDigits_padded hday,
    ofDigits_padded hhour, ofDigits_padded hminute, ofDigits_padded hsec, ← hy]

/-- The text of a date and a time of day that fit is read, whatever follows it. -/
theorem Fields.Fit.readFields_append {f : Fields} (h : f.Fit) (tail : List Char) :
    readFields (f.spelling.text ++ tail) = some (f, tail) := by
  rw [Spelling.readFields_append h.readable (.inl h.length_sec), h.fields_spelling]

/-- The text of a date and a time of day that fit, followed by a fraction and something
else, is read if this starts with `Z`. -/
theorem Fields.Fit.parse_append {f : Fields} (h : f.Fit) {fraction rest : List Char}
    (hfraction : IsFraction fraction) (hrest : StopsFraction rest) :
    parse (String.ofList (f.spelling.text ++ (fraction ++ rest))) =
      if rest.head? = some 'Z' ∧ f.seconds ≠ -1 then some (f.seconds * second) else none := by
  have hcloses : closes ([] ++ (fraction ++ rest)) = (rest.head? == some 'Z') :=
    closes_append nofun hfraction hrest
  have hread : readFields (String.ofList (f.spelling.text ++ (fraction ++ rest))).toList =
      some (f, fraction ++ rest) := by
    rw [String.toList_ofList]
    exact h.readFields_append _
  rw [List.nil_append] at hcloses
  simp only [parse_of_readFields hread, hcloses, beq_iff_eq]

/-! ## Instants -/

/-- The date and the time of day of a second. -/
def Fields.ofSeconds (s : Int) : Fields where
  date := Calendar.dateOfDay (s / 86400)
  hour := (s % 86400).toNat / 3600
  minute := (s % 86400).toNat / 60 % 60
  sec := (s % 86400).toNat % 60

theorem formatSeconds_eq_text (s : Int) : formatSeconds s = (Fields.ofSeconds s).text := by
  simp only [formatSeconds, Fields.text, Fields.ofSeconds, List.append_assoc, List.cons_append]
  rfl

/-- The date and the time of day of a second stand for that second. -/
theorem seconds_ofSeconds (s : Int) : (Fields.ofSeconds s).seconds = s := by
  rw [Fields.seconds]
  simp only [Fields.ofSeconds, Calendar.dayNumber_dateOfDay]
  omega

theorem monthLength_le (year : Int) (month : Nat) : Calendar.monthLength year month ≤ 31 := by
  unfold Calendar.monthLength
  cases hlength : (Calendar.monthLengths year)[month - 1]? with
  | none => simp
  | some length =>
    have hmem := List.mem_of_getElem? hlength
    unfold Calendar.monthLengths at hmem
    rw [Option.getD_some]
    cases hleap : Calendar.isLeap year <;> simp [hleap] at hmem <;> omega

/-- The date and the time of day of a second fit if its year has at most four digits. -/
theorem fit_ofSeconds {s : Int} (hlow : 0 ≤ (Calendar.dateOfDay (s / 86400)).year)
    (hhigh : (Calendar.dateOfDay (s / 86400)).year ≤ 9999) : (Fields.ofSeconds s).Fit := by
  obtain ⟨hone, htwelve, hday, hlength⟩ := Calendar.exists_dateOfDay (s / 86400)
  have hle := Nat.le_trans hlength (monthLength_le _ _)
  have hofDay : (s % 86400).toNat < 86400 := by omega
  exact ⟨⟨hlow, hhigh⟩, ⟨hone, htwelve⟩, ⟨hday, hle⟩, by simp only [Fields.ofSeconds]; omega,
    by simp only [Fields.ofSeconds]; omega, by simp only [Fields.ofSeconds]; omega⟩

/-- An instant that is a whole number of seconds is not cut. -/
theorem wholeSeconds_mul_second (s : Int) : wholeSeconds (s * second) = s :=
  Int.mul_tdiv_cancel s (by decide)

/-! ## The clock -/

/-- The instants from the start of 1678 on that fit 64 bits with a sign. -/
def OnClock (t : Int) : Prop :=
  Calendar.dayNumber ⟨1678, 1, 1⟩ * 86400 * second ≤ t ∧ t < Nat.pow 2 63

/-- Cutting to whole seconds stays on the side of 1970 on which it starts. -/
theorem wholeSeconds_bounds (t : Int) :
    (0 ≤ t → wholeSeconds t = t / second) ∧ (t < 0 → wholeSeconds t = -(-t / second)) := by
  unfold wholeSeconds
  constructor
  · exact fun h => Int.tdiv_eq_ediv_of_nonneg h
  · intro h
    have hpos : 0 ≤ -t := by omega
    have hneg : (-t).tdiv second = -t / second := Int.tdiv_eq_ediv_of_nonneg hpos
    rw [← hneg, Int.neg_tdiv, Int.neg_neg]

/-- The seconds of the clock have dates of the years from 1678 to 2262. -/
theorem year_of_onClock {t : Int} (h : OnClock t) :
    1678 ≤ (Calendar.dateOfDay (wholeSeconds t / 86400)).year ∧
      (Calendar.dateOfDay (wholeSeconds t / 86400)).year ≤ 2262 := by
  obtain ⟨hlow, hhigh⟩ := h
  obtain ⟨hpos, hneg⟩ := wholeSeconds_bounds t
  have hfirst : Calendar.dayNumber ⟨1678, 1, 1⟩ = -106650 := by decide
  have hpow : ((Nat.pow 2 63 : Nat) : Int) = 9223372036854775808 := by decide
  have hstart : Calendar.daysBeforeYear 1678 = 612512 := by decide
  have hend : Calendar.daysBeforeYear (2262 + 1) = 826178 := by decide
  rw [hfirst] at hlow
  rw [hpow] at hhigh
  unfold second at hlow hpos hneg
  apply Calendar.year_dateOfDay
  · rw [hstart, Calendar.epochDay]
    omega
  · rw [hend, Calendar.epochDay]
    omega

/-- The date and the time of day that are written of an instant. -/
def Fields.ofInstant (t : Instant) : Fields := Fields.ofSeconds (wholeSeconds t)

theorem toList_format (t : Instant) :
    (format t).toList = (Fields.ofInstant t).spelling.text ++ ['Z'] := by
  rw [format, String.toList_ofList, formatSeconds_eq_text, Fields.text_eq, Fields.ofInstant]

theorem format_ne_empty (t : Instant) : format t ≠ "" := by
  intro hempty
  have htext := toList_format t
  rw [hempty] at htext
  exact absurd htext.symm (List.append_ne_nil_of_right_ne_nil _ (List.cons_ne_nil _ _))

theorem OnClock.fit {t : Instant} (h : OnClock t) : (Fields.ofInstant t).Fit := by
  obtain ⟨hlow, hhigh⟩ := year_of_onClock h
  exact fit_ofSeconds (by omega) (by omega)

/-- **A written time stamp is read back as the second it was cut to**, unless this is
the last second before 1970. -/
theorem parse_format {t : Instant} (h : OnClock t) (hne : wholeSeconds t ≠ -1) :
    parse (format t) = some (wholeSeconds t * second) := by
  have hseconds : (Fields.ofInstant t).seconds = wholeSeconds t := seconds_ofSeconds _
  have hzone : StopsFraction ['Z'] := stopsFraction_cons (by decide) []
  have hread := h.fit.parse_append .absent hzone
  rw [List.nil_append, ← toList_format, String.ofList_toList, hseconds] at hread
  rw [hread, if_pos ⟨rfl, hne⟩]

/-- What is read is a whole number of seconds, and not the one that means failure. -/
theorem exists_seconds_of_parse {text : String} {t : Instant} (h : parse text = some t) :
    ∃ s, s ≠ -1 ∧ t = s * second := by
  obtain ⟨w, closing, -, hne, ht⟩ := parse_eq_some_iff.1 h
  exact ⟨w.fields.seconds, hne, ht⟩

end Timestamp
end IssuerReadiness
