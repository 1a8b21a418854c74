import IssuerReadiness.Proofs.Text
import IssuerReadiness.Timestamp

/-!
# The spellings that are read

The reader of time stamps works from the left to the right: it leaves out blanks, takes
digits, and expects marks.  What it accepts is described here as a whole and without it, by
the parts that a text is put together from.

A text that is read has two parts.  The first is the *spelling* of a date and a time of day
(`Spelling`), with everything the reader leaves out before the year and before the day.  The
second is the *closing* behind the seconds (`IsClosing`), of which nothing is kept.

## Where a part ends

A field of digits is read as far as it goes, so that the same digits followed by one more
would not be read as that field.  But the only place where a digit could follow is the
front of the closing, and a closing never starts with one: blanks, the point and `Z` are no
digits.  For the same reason a text is put together in one way only (`text_append_inj`),
and it makes sense to ask which liberties *the* spelling of a text takes.

* `IsField`, `field_append`, `exists_of_field`: the fields.
* `Spelling.readFields_append`, `exists_of_readFields`: the two directions for a spelling.
* `closes_iff`: the closings.
* `parseSeconds_eq_some_iff`: the texts that are read, and what they stand for.
-/

namespace IssuerReadiness
namespace Timestamp

open Text (takeWhile_append_eq dropWhile_append_eq run_append_inj isBlank_of_isDigit)

/-! ## Fields -/

/-- The digits of a field: at least one of them and at most `width`, for a number from `lo`
to `hi`. -/
structure IsField (width lo hi : Nat) (ds : List Char) : Prop where
  digits : ∀ c ∈ ds, Text.isDigit c = true
  ne_nil : ds ≠ []
  length : ds.length ≤ width
  range : lo ≤ Text.ofDigits ds ∧ Text.ofDigits ds ≤ hi

/-- The text does not start with a digit. -/
def StopsDigits (cs : List Char) : Prop :=
  ∀ c, cs.head? = some c → Text.isDigit c = false

theorem stopsDigits_cons {c : Char} (h : Text.isDigit c = false) (cs : List Char) :
    StopsDigits (c :: cs) := by
  intro d hd
  cases hd
  exact h

/-- A field does not start with a blank. -/
theorem IsField.stopsBlanks {width lo hi : Nat} {ds : List Char} (h : IsField width lo hi ds)
    (rest : List Char) : ∀ c, (ds ++ rest).head? = some c → Text.isBlank c = false := by
  obtain ⟨d, ds', rfl⟩ := List.exists_cons_of_ne_nil h.ne_nil
  intro c hc
  cases hc
  exact isBlank_of_isDigit (h.digits d List.mem_cons_self)

/-- A field takes its digits, if it is full or no digit follows. -/
theorem field_append {width lo hi : Nat} {ds : List Char} (h : IsField width lo hi ds)
    {rest : List Char} (hrest : ds.length = width ∨ StopsDigits rest) :
    field width lo hi (ds ++ rest) = some (Text.ofDigits ds, rest) := by
  have hstop : StopsDigits (rest.take (width - ds.length)) := by
    rcases hrest with hfull | hstop
    · rw [hfull, Nat.sub_self]
      exact nofun
    · intro c hc
      rw [List.head?_take] at hc
      split at hc
      · cases hc
      · exact hstop c hc
  have htake : ((ds ++ rest).take width).takeWhile Text.isDigit = ds := by
    rw [List.take_append, List.take_of_length_le h.length]
    exact takeWhile_append_eq h.digits hstop
  unfold field
  dsimp only
  rw [htake, if_pos ⟨h.ne_nil, h.range⟩, List.drop_left]

/-- What a field takes are digits of a number in its range. -/
theorem exists_of_field {width lo hi n : Nat} {cs rest : List Char}
    (h : field width lo hi cs = some (n, rest)) :
    ∃ ds, IsField width lo hi ds ∧ n = Text.ofDigits ds ∧ cs = ds ++ rest := by
  unfold field at h
  dsimp only at h
  split at h
  · rename_i hcond
    cases h
    have hprefix : (cs.take width).takeWhile Text.isDigit <+: cs :=
      (List.takeWhile_prefix _).trans (List.take_prefix ..)
    have hlength : ((cs.take width).takeWhile Text.isDigit).length ≤ width :=
      Nat.le_trans (List.takeWhile_prefix _).length_le (List.length_take_le ..)
    exact ⟨_, ⟨fun c hc => List.mem_takeWhile_imp hc, hcond.1, hlength, hcond.2⟩, rfl,
      (List.prefix_iff_eq_append.1 hprefix).symm⟩
  · cases h

/-! ## Marks and gaps -/

theorem mark_cons {allowed : List Char} {c : Char} (h : c ∈ allowed) (rest : List Char) :
    mark allowed (c :: rest) = some rest :=
  if_pos h

theorem exists_of_mark {allowed cs rest : List Char} (h : mark allowed cs = some rest) :
    ∃ c ∈ allowed, cs = c :: rest := by
  unfold mark at h
  split at h
  · split at h
    · cases h
      exact ⟨_, ‹_›, rfl⟩
    · cases h
  · cases h

theorem eq_of_mark {c : Char} {cs rest : List Char} (h : mark [c] cs = some rest) :
    cs = c :: rest := by
  obtain ⟨d, hd, rfl⟩ := exists_of_mark h
  rw [List.mem_singleton.1 hd]

/-- What may be left out before the day: one blank, or nothing. -/
structure IsGap (gap : List Char) : Prop where
  blank : ∀ c ∈ gap, Text.isBlank c = true
  length : gap.length ≤ 1

theorem skipBlank_append {gap rest : List Char} (h : IsGap gap)
    (hrest : ∀ c, rest.head? = some c → Text.isBlank c = false) :
    skipBlank (gap ++ rest) = rest := by
  rcases gap with _ | ⟨b, _ | ⟨b', gap⟩⟩
  · cases rest with
    | nil => rfl
    | cons c rest => simp [skipBlank, hrest c rfl]
  · simp [skipBlank, h.blank b List.mem_cons_self]
  · have hlength := h.length
    simp at hlength

theorem exists_gap (cs : List Char) : ∃ gap, IsGap gap ∧ cs = gap ++ skipBlank cs := by
  rcases cs with _ | ⟨c, rest⟩
  · exact ⟨[], ⟨nofun, Nat.zero_le 1⟩, rfl⟩
  · by_cases hblank : Text.isBlank c = true
    · refine ⟨[c], ⟨?_, Nat.le_refl 1⟩, by simp [skipBlank, hblank]⟩
      intro d hd
      rw [List.mem_singleton.1 hd]
      exact hblank
    · exact ⟨[], ⟨nofun, Nat.zero_le 1⟩, by simp [skipBlank, hblank]⟩

/-! ## Spellings -/

/-- A date and a time of day as they are spelled in a text. -/
structure Spelling where
  /-- What is left out before the year. -/
  lead : List Char := []
  year : List Char
  month : List Char
  /-- What is left out before the day. -/
  gap : List Char := []
  day : List Char
  /-- What stands between the date and the time. -/
  divider : Char := 'T'
  hour : List Char
  minute : List Char
  sec : List Char

namespace Spelling

/-- The text of a spelling. -/
def text (w : Spelling) : List Char :=
  w.lead ++ (w.year ++ '-' :: (w.month ++ '-' :: (w.gap ++ (w.day ++ w.divider ::
    (w.hour ++ ':' :: (w.minute ++ ':' :: w.sec))))))

/-- The date and the time of day that are spelled. -/
def fields (w : Spelling) : Fields where
  date := ⟨Text.ofDigits w.year, Text.ofDigits w.month, Text.ofDigits w.day⟩
  hour := Text.ofDigits w.hour
  minute := Text.ofDigits w.minute
  sec := Text.ofDigits w.sec

/-- A spelling that is read. -/
structure Readable (w : Spelling) : Prop where
  lead : ∀ c ∈ w.lead, Text.isBlank c = true
  year : IsField 4 0 9999 w.year
  month : IsField 2 1 12 w.month
  gap : IsGap w.gap
  day : IsField 2 1 31 w.day
  divider : w.divider ∈ ['T', 't']
  hour : IsField 2 0 23 w.hour
  minute : IsField 2 0 59 w.minute
  sec : IsField 2 0 60 w.sec

theorem Readable.isDigit_divider {w : Spelling} (h : w.Readable) :
    Text.isDigit w.divider = false := by
  have hdivider := h.divider
  simp only [List.mem_cons, List.not_mem_nil, or_false] at hdivider
  rcases hdivider with hbig | hsmall
  · rw [hbig]
    rfl
  · rw [hsmall]
    rfl

/-- **A spelling is read as its date and time**, and what follows it is left, if that does
not go on with digits. -/
theorem readFields_append {w : Spelling} (h : w.Readable) {tail : List Char}
    (htail : w.sec.length = 2 ∨ StopsDigits tail) :
    readFields (w.text ++ tail) = some (w.fields, tail) := by
  have hhyphen : ∀ rest, StopsDigits ('-' :: rest) := stopsDigits_cons (by decide)
  have hcolon : ∀ rest, StopsDigits (':' :: rest) := stopsDigits_cons (by decide)
  have hdivider : ∀ rest, StopsDigits (w.divider :: rest) := stopsDigits_cons h.isDigit_divider
  have hlead : ∀ rest, (w.lead ++ (w.year ++ rest)).dropWhile Text.isBlank = w.year ++ rest :=
    fun rest => dropWhile_append_eq h.lead (h.year.stopsBlanks rest)
  have hgap : ∀ rest, skipBlank (w.gap ++ (w.day ++ rest)) = w.day ++ rest :=
    fun rest => skipBlank_append h.gap (h.day.stopsBlanks rest)
  have hyear := fun rest => field_append h.year (.inr (hhyphen rest))
  have hmonth := fun rest => field_append h.month (.inr (hhyphen rest))
  have hday := fun rest => field_append h.day (.inr (hdivider rest))
  have hhour := fun rest => field_append h.hour (.inr (hcolon rest))
  have hminute := fun rest => field_append h.minute (.inr (hcolon rest))
  have hsec := field_append h.sec htail
  have hmark : ∀ c rest, mark [c] (c :: rest) = some rest :=
    fun c => mark_cons List.mem_cons_self
  simp only [text, List.append_assoc, List.cons_append, readFields, Option.bind_eq_bind,
    Option.bind_some, hlead, hyear, hmark, hmonth, hgap, hday, mark_cons h.divider, hhour,
    hminute, hsec]
  rfl

end Spelling

/-- What is read is a spelling, followed by what is left. -/
theorem exists_of_readFields {cs rest : List Char} {f : Fields}
    (h : readFields cs = some (f, rest)) :
    ∃ w : Spelling, w.Readable ∧ f = w.fields ∧ cs = w.text ++ rest := by
  simp only [readFields, Option.bind_eq_bind, Option.bind_eq_some_iff, Prod.exists] at h
  obtain ⟨_, cs₁, readYear, cs₂, readHyphen, _, cs₃, readMonth, cs₄, readHyphen', _, cs₅, readDay,
    cs₆, readDivider, _, cs₇, readHour, cs₈, readColon, _, cs₉, readMinute, cs₁₀, readColon', _,
    cs₁₁, readSec, h⟩ := h
  cases h
  obtain ⟨year, hyear, rfl, htext⟩ := exists_of_field readYear
  obtain rfl := eq_of_mark readHyphen
  obtain ⟨month, hmonth, rfl, rfl⟩ := exists_of_field readMonth
  obtain rfl := eq_of_mark readHyphen'
  obtain ⟨gap, hgap, hskip⟩ := exists_gap cs₄
  obtain ⟨day, hday, rfl, htext'⟩ := exists_of_field readDay
  obtain ⟨divider, hdivider, rfl⟩ := exists_of_mark readDivider
  obtain ⟨hour, hhour, rfl, rfl⟩ := exists_of_field readHour
  obtain rfl := eq_of_mark readColon
  obtain ⟨minute, hminute, rfl, rfl⟩ := exists_of_field readMinute
  obtain rfl := eq_of_mark readColon'
  obtain ⟨sec, hsec, rfl, rfl⟩ := exists_of_field readSec
  refine ⟨⟨cs.takeWhile Text.isBlank, year, month, gap, day, divider, hour, minute, sec⟩,
    ⟨fun c hc => List.mem_takeWhile_imp hc, hyear, hmonth, hgap, hday, hdivider, hhour, hminute,
      hsec⟩, rfl, ?_⟩
  have hlead : cs = cs.takeWhile Text.isBlank ++ cs.dropWhile Text.isBlank :=
    List.takeWhile_append_dropWhile.symm
  rw [htext, hskip, htext'] at hlead
  simpa only [Spelling.text, List.append_assoc, List.cons_append] using hlead

/-! ## Closings -/

/-- What may stand for a fraction of a second: nothing, or a point and digits. -/
inductive IsFraction : List Char → Prop where
  | absent : IsFraction []
  | digits {ds : List Char} (h : ∀ c ∈ ds, Text.isDigit c = true) : IsFraction ('.' :: ds)

/-- What may stand behind the seconds: blanks, a fraction, `Z`, and anything at all. -/
def IsClosing (cs : List Char) : Prop :=
  ∃ blanks fraction rest, (∀ c ∈ blanks, Text.isBlank c = true) ∧ IsFraction fraction ∧
    cs = blanks ++ (fraction ++ 'Z' :: rest)

/-- The text goes on neither with a blank nor with a part of a fraction. -/
def StopsFraction (cs : List Char) : Prop :=
  ∀ c, cs.head? = some c → Text.isBlank c = false ∧ Text.isDigit c = false ∧ c ≠ '.'

theorem stopsFraction_nil : StopsFraction [] :=
  nofun

theorem stopsFraction_cons {c : Char}
    (h : Text.isBlank c = false ∧ Text.isDigit c = false ∧ c ≠ '.') (cs : List Char) :
    StopsFraction (c :: cs) := by
  intro d hd
  cases hd
  exact h

/-- Blanks and a fraction close a time stamp if `Z` follows them, and otherwise not. -/
theorem closes_append {blanks fraction rest : List Char}
    (hblanks : ∀ c ∈ blanks, Text.isBlank c = true) (hfraction : IsFraction fraction)
    (hrest : StopsFraction rest) :
    closes (blanks ++ (fraction ++ rest)) = (rest.head? == some 'Z') := by
  unfold closes
  cases hfraction with
  | absent =>
    rw [List.nil_append, dropWhile_append_eq hblanks fun c hc => (hrest c hc).1]
    split
    · rfl
    · exact absurd rfl (hrest _ rfl).2.2
    · rename_i hz _
      refine (beq_eq_false_iff_ne.2 fun hhead => ?_).symm
      obtain ⟨after, rfl⟩ := List.head?_eq_some_iff.1 hhead
      exact hz after rfl
  | digits hdigits =>
    have hpoint : ∀ ds c, ('.' :: ds).head? = some c → Text.isBlank c = false := by
      intro ds c hc
      cases hc
      decide
    rw [List.cons_append, dropWhile_append_eq hblanks (hpoint _)]
    simp only [dropWhile_append_eq hdigits fun c hc => (hrest c hc).2.1]

theorem closes_iff {cs : List Char} : closes cs = true ↔ IsClosing cs := by
  constructor
  · intro h
    have hblanks : cs = cs.takeWhile Text.isBlank ++ cs.dropWhile Text.isBlank :=
      List.takeWhile_append_dropWhile.symm
    have hall : ∀ c ∈ cs.takeWhile Text.isBlank, Text.isBlank c = true :=
      fun c hc => List.mem_takeWhile_imp hc
    unfold closes at h
    split at h
    · rename_i rest heq
      rw [heq] at hblanks
      exact ⟨_, [], rest, hall, .absent, hblanks⟩
    · rename_i rest heq
      obtain ⟨after, hafter⟩ := List.head?_eq_some_iff.1 (beq_iff_eq.1 h)
      have hdigits : rest = rest.takeWhile Text.isDigit ++ 'Z' :: after := by
        rw [← hafter, List.takeWhile_append_dropWhile]
      refine ⟨_, '.' :: rest.takeWhile Text.isDigit, after, hall,
        .digits fun c hc => List.mem_takeWhile_imp hc, ?_⟩
      rw [List.cons_append, ← hdigits, ← heq]
      exact hblanks
    · cases h
  · rintro ⟨blanks, fraction, rest, hblanks, hfraction, rfl⟩
    rw [closes_append hblanks hfraction (stopsFraction_cons (by decide) rest)]
    rfl

theorem IsClosing.stopsDigits {cs : List Char} (h : IsClosing cs) : StopsDigits cs := by
  obtain ⟨blanks, fraction, rest, hblanks, hfraction, rfl⟩ := h
  intro c hc
  cases blanks with
  | nil => cases hfraction <;> cases hc <;> decide
  | cons b blanks =>
    cases hc
    have hblank := hblanks c List.mem_cons_self
    cases hdigit : Text.isDigit c with
    | false => rfl
    | true =>
      rw [isBlank_of_isDigit hdigit] at hblank
      cases hblank

/-! ## Time stamps -/

/-- The text is the spelling and the closing, and both are such that they are read. -/
structure Spelling.Spells (w : Spelling) (closing : List Char) (s : String) : Prop where
  text : s.toList = w.text ++ closing
  readable : w.Readable
  closing : IsClosing closing

/-- A text in which a date and a time of day are read stands for their second, if it closes
and if this is not the second whose number means failure. -/
theorem parse_of_readFields {s : String} {f : Fields} {rest : List Char}
    (h : readFields s.toList = some (f, rest)) :
    parse s = if closes rest = true ∧ f.seconds ≠ -1 then some (f.seconds * second) else none := by
  rw [parse, parseSeconds, h]
  show (if closes rest = true ∧ f.seconds ≠ -1 then some f.seconds else none).map (· * second) = _
  split <;> rfl

/-- **The texts that are read** are those that are spelled, and they stand for the second
that is spelled, unless this is the one whose number means failure. -/
theorem parse_eq_some_iff {s : String} {t : Instant} :
    parse s = some t ↔ ∃ (w : Spelling) (closing : List Char), w.Spells closing s ∧
      w.fields.seconds ≠ -1 ∧ t = w.fields.seconds * second := by
  constructor
  · intro h
    obtain ⟨n, hn, -⟩ := Option.map_eq_some_iff.1 h
    obtain ⟨⟨f, rest⟩, hread, -⟩ := Option.bind_eq_some_iff.1 hn
    obtain ⟨w, hw, rfl, htext⟩ := exists_of_readFields hread
    rw [parse_of_readFields hread] at h
    split at h
    · rename_i hcond
      cases h
      exact ⟨w, rest, ⟨htext, hw, closes_iff.1 hcond.1⟩, hcond.2, rfl⟩
    · cases h
  · rintro ⟨w, closing, ⟨htext, hw, hclosing⟩, hne, rfl⟩
    have hread : readFields s.toList = some (w.fields, closing) := by
      rw [htext]
      exact w.readFields_append hw (.inr hclosing.stopsDigits)
    rw [parse_of_readFields hread, if_pos ⟨closes_iff.2 hclosing, hne⟩]

/-- **A text is spelled in one way only.** -/
theorem Spelling.Spells.unique {w w' : Spelling} {closing closing' : List Char} {s : String}
    (h : w.Spells closing s) (h' : w'.Spells closing' s) : w = w' ∧ closing = closing' := by
  obtain ⟨htext, hw, hclosing⟩ := h
  obtain ⟨htext', hw', hclosing'⟩ := h'
  have hhyphen : ∀ rest, StopsDigits ('-' :: rest) := stopsDigits_cons (by decide)
  have hcolon : ∀ rest, StopsDigits (':' :: rest) := stopsDigits_cons (by decide)
  have hdivider : ∀ rest, StopsDigits (w.divider :: rest) := stopsDigits_cons hw.isDigit_divider
  have hdivider' : ∀ rest, StopsDigits (w'.divider :: rest) :=
    stopsDigits_cons hw'.isDigit_divider
  have hsame := htext.symm.trans htext'
  simp only [Spelling.text, List.append_assoc, List.cons_append] at hsame
  obtain ⟨hlead, hsame⟩ := run_append_inj hw.lead (hw.year.stopsBlanks _) hw'.lead
    (hw'.year.stopsBlanks _) hsame
  obtain ⟨hyear, hsame⟩ := run_append_inj hw.year.digits (hhyphen _) hw'.year.digits
    (hhyphen _) hsame
  obtain ⟨hmonth, hsame⟩ := run_append_inj hw.month.digits (hhyphen _) hw'.month.digits
    (hhyphen _) (List.cons.inj hsame).2
  obtain ⟨hgap, hsame⟩ := run_append_inj hw.gap.blank (hw.day.stopsBlanks _) hw'.gap.blank
    (hw'.day.stopsBlanks _) (List.cons.inj hsame).2
  obtain ⟨hday, hsame⟩ := run_append_inj hw.day.digits (hdivider _) hw'.day.digits
    (hdivider' _) hsame
  obtain ⟨hmark, hsame⟩ := List.cons.inj hsame
  obtain ⟨hhour, hsame⟩ := run_append_inj hw.hour.digits (hcolon _) hw'.hour.digits
    (hcolon _) hsame
  obtain ⟨hminute, hsame⟩ := run_append_inj hw.minute.digits (hcolon _) hw'.minute.digits
    (hcolon _) (List.cons.inj hsame).2
  obtain ⟨hsec, hclosings⟩ := run_append_inj hw.sec.digits hclosing.stopsDigits hw'.sec.digits
    hclosing'.stopsDigits (List.cons.inj hsame).2
  refine ⟨?_, hclosings⟩
  cases w
  cases w'
  simp only [Spelling.mk.injEq]
  exact ⟨hlead, hyear, hmonth, hgap, hday, hmark, hhour, hminute, hsec⟩

end Timestamp
end IssuerReadiness
