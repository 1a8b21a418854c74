import IssuerReadiness.Proofs.Calendar.Succession
import IssuerReadiness.Proofs.Timestamp.Format

/-!
# The order of written time stamps

Time stamps are compared as texts by everyone who sorts by them, and that gives the order of
time because of how they are written: the fields stand from the greatest to the least, and
each of them has a fixed width, so that the first character in which two texts differ belongs
to the first field in which they differ, and decides as its number does.

What is compared is bytes.  All the texts have one shape (`OnClock.hasShape`), and that makes
them ASCII texts, which have one byte for a character, in the order of the characters.

## What is lost

The instant is cut to whole seconds toward zero, and two instants have the same text exactly
if they are cut to the same second.  At the start of 1970 the cut takes the last second before
it and the first one behind it together.

* `Fields.Before`, `before_of_seconds_lt` --- the order of dates and times of day.
* `spelling_lt` --- the order of their texts.
* `format_ordered` --- the order and the shape of what is written.
-/

namespace IssuerReadiness
namespace Timestamp

/-! ## Fields -/

/-- A field and what follows it come before another field of the width and what follows
that, if the number is less, or if it is the same and what follows comes before. -/
theorem padded_append_lt {width m n : Nat} (hm : m < Nat.pow 10 width) (hn : n < Nat.pow 10 width)
    {rest rest' : List Char} (h : m < n ∨ m = n ∧ rest < rest') :
    Text.padded width m ++ rest < Text.padded width n ++ rest' := by
  rw [padded_eq_digits hm, padded_eq_digits hn]
  rcases h with hlt | ⟨rfl, hrest⟩
  · exact Text.append_lt_append (by rw [Text.length_digits, Text.length_digits])
      (Text.digits_lt_digits hlt hn) _ _
  · exact List.append_left_lt hrest

/-! ## Dates and times of day -/

/-- A date and a time of day come before another one: the greatest field in which they
differ is less. -/
def Fields.Before (f g : Fields) : Prop :=
  f.date.year < g.date.year ∨ f.date.year = g.date.year ∧
    (f.date.month < g.date.month ∨ f.date.month = g.date.month ∧
      (f.date.day < g.date.day ∨ f.date.day = g.date.day ∧
        (f.hour < g.hour ∨ f.hour = g.hour ∧
          (f.minute < g.minute ∨ f.minute = g.minute ∧ f.sec < g.sec))))

/-- An earlier second has an earlier date, or an earlier time of the same day. -/
theorem before_of_seconds_lt {f g : Fields} (hf : f.OnCalendar) (hg : g.OnCalendar)
    (hsec : f.sec ≤ 59) (hsec' : g.sec ≤ 59) (h : f.seconds < g.seconds) : f.Before g := by
  have hhour := hf.hour
  have hminute := hf.minute
  have hhour' := hg.hour
  have hminute' := hg.minute
  unfold Fields.seconds at h
  unfold Fields.Before
  rcases f.date.before_or_eq_or_before g.date with hbefore | heq | hafter
  · unfold Calendar.Date.Before at hbefore
    omega
  · rw [heq] at h ⊢
    omega
  · -- a later date has a greater number, and a day is longer than any time of day
    have hlt := Calendar.dayNumber_lt_of_before hg.date hf.date hafter
    omega

/-- **The texts are ordered as the dates and times of day.** -/
theorem spelling_lt {f g : Fields} (hf : f.Fit) (hg : g.Fit) (h : f.Before g)
    (closing : List Char) : f.spelling.text ++ closing < g.spelling.text ++ closing := by
  obtain ⟨⟨y, hy, hyear⟩, hmonth, hday, hhour, hminute, hsec⟩ := hf.room
  obtain ⟨⟨y', hy', hyear'⟩, hmonth', hday', hhour', hminute', hsec'⟩ := hg.room
  have hcons : ∀ (c : Char) {cs ds : List Char}, cs < ds → c :: cs < c :: ds :=
    fun c _ _ hlt => List.cons_lt_cons_iff.2 (.inr ⟨rfl, hlt⟩)
  unfold Fields.Before at h
  rw [hy, hy', Int.ofNat_lt, Int.ofNat_inj] at h
  rw [f.spelling_text_append, g.spelling_text_append, hy, hy']
  refine padded_append_lt hyear hyear' (h.imp_right (And.imp_right fun h => hcons '-' ?_))
  refine padded_append_lt hmonth hmonth' (h.imp_right (And.imp_right fun h => hcons '-' ?_))
  refine padded_append_lt hday hday' (h.imp_right (And.imp_right fun h => hcons 'T' ?_))
  refine padded_append_lt hhour hhour' (h.imp_right (And.imp_right fun h => hcons ':' ?_))
  refine padded_append_lt hminute hminute' (h.imp_right (And.imp_right fun h => hcons ':' ?_))
  exact padded_append_lt hsec hsec' (.inl h)

/-- The shape of what is written. -/
def shape : List Char := "dddd-dd-ddTdd:dd:ddZ".toList

theorem ascii_shape : ∀ p ∈ shape, p.toNat < 128 := by
  have hall : shape.all (fun p => decide (p.toNat < 128)) = true := by decide
  exact fun p hp => of_decide_eq_true (List.all_eq_true.1 hall p hp)

theorem hasShape_padded {width n : Nat} (h : n < Nat.pow 10 width) :
    Text.HasShape (List.replicate width 'd') (Text.padded width n) := by
  rw [padded_eq_digits h]
  exact Text.hasShape_digits width n

theorem Fields.Fit.hasShape {f : Fields} (h : f.Fit) :
    Text.HasShape shape (f.spelling.text ++ ['Z']) := by
  obtain ⟨⟨y, hy, hyear⟩, hmonth, hday, hhour, hminute, hsec⟩ := h.room
  have hhyphen : Text.Matches '-' '-' := rfl
  have hcolon : Text.Matches ':' ':' := rfl
  rw [f.spelling_text_append, hy]
  exact (hasShape_padded hyear).append (.cons hhyphen ((hasShape_padded hmonth).append
    (.cons hhyphen ((hasShape_padded hday).append (.cons rfl ((hasShape_padded hhour).append
      (.cons hcolon ((hasShape_padded hminute).append (.cons hcolon
        ((hasShape_padded hsec).append (.cons rfl .nil)))))))))))

/-! ## Instants -/

theorem wholeSeconds_mono {t u : Instant} (h : t ≤ u) : wholeSeconds t ≤ wholeSeconds u :=
  Int.tdiv_le_tdiv (by decide) h

/-- An instant on the clock is written as a date that the calendar has and a time of day. -/
theorem OnClock.onCalendar {t : Instant} (h : OnClock t) : (Fields.ofInstant t).OnCalendar :=
  ⟨Calendar.exists_dateOfDay _, h.fit.year, h.fit.hour, h.fit.minute, h.fit.sec⟩

/-- The second 60 is not written. -/
theorem sec_ofInstant_le (t : Instant) : (Fields.ofInstant t).sec ≤ 59 :=
  Nat.le_of_lt_succ (Nat.mod_lt _ (by decide))

theorem OnClock.hasShape {t : Instant} (h : OnClock t) :
    Text.HasShape shape (format t).toList := by
  rw [toList_format]
  exact h.fit.hasShape

/-- An earlier second has the earlier text. -/
theorem format_lt {t u : Instant} (ht : OnClock t) (hu : OnClock u)
    (h : wholeSeconds t < wholeSeconds u) :
    Bytes.ofString (format t) < Bytes.ofString (format u) := by
  have hascii := ht.hasShape.ascii ascii_shape
  have hascii' := hu.hasShape.ascii ascii_shape
  have hbefore : (Fields.ofInstant t).Before (Fields.ofInstant u) := by
    refine before_of_seconds_lt ht.onCalendar hu.onCalendar (sec_ofInstant_le t)
      (sec_ofInstant_le u) ?_
    rw [Fields.ofInstant, seconds_ofSeconds, Fields.ofInstant, seconds_ofSeconds]
    exact h
  have htexts : (format t).toList < (format u).toList := by
    rw [toList_format, toList_format]
    exact spelling_lt ht.fit hu.fit hbefore ['Z']
  have hbytes := Bytes.ofString_lt_ofString hascii hascii' htexts
  rwa [String.ofList_toList, String.ofList_toList] at hbytes

/-- **Time stamps are ordered as the instants they are written for**, byte by byte, and two of
them are the same exactly if the instants are cut to the same second.  Each has the one
shape of twenty bytes, and is the text of a date that the calendar has and a time of day,
which stand for that second. -/
theorem format_ordered {t u : Instant} (ht : OnClock t) (hu : OnClock u) :
    (t ≤ u → Bytes.ofString (format t) ≤ Bytes.ofString (format u)) ∧
    (format t = format u ↔ wholeSeconds t = wholeSeconds u) ∧
    (Bytes.ofString (format t)).length = 20 ∧
    Text.HasShape shape (format t).toList ∧
    ∃ f : Fields, f.OnCalendar ∧ f.sec ≤ 59 ∧ f.seconds = wholeSeconds t ∧
      (format t).toList = f.spelling.text ++ ['Z'] := by
  have hsame : wholeSeconds t = wholeSeconds u → format t = format u := by
    intro h
    rw [format, format, h]
  have hdiffer : ∀ {v w : Instant}, OnClock v → OnClock w → wholeSeconds v < wholeSeconds w →
      format v ≠ format w := by
    intro v w hv hw hlt heq
    have hbytes := format_lt hv hw hlt
    rw [heq] at hbytes
    exact List.lt_irrefl _ hbytes
  refine ⟨fun h => ?_, ⟨fun h => ?_, hsame⟩, ?_, ht.hasShape, Fields.ofInstant t,
    ht.onCalendar, sec_ofInstant_le t, seconds_ofSeconds _, toList_format t⟩
  · rcases Int.lt_or_eq_of_le (wholeSeconds_mono h) with hlt | heq
    · exact List.le_of_lt (format_lt ht hu hlt)
    · rw [hsame heq]
      exact List.le_refl _
  · rcases Int.lt_trichotomy (wholeSeconds t) (wholeSeconds u) with hlt | heq | hgt
    · exact absurd h (hdiffer ht hu hlt)
    · exact heq
    · exact absurd h.symm (hdiffer hu ht hgt)
  · have hascii := ht.hasShape.ascii ascii_shape
    have hbytes := Bytes.ofString_ofList hascii
    rw [String.ofList_toList] at hbytes
    rw [hbytes, List.length_map, ← ht.hasShape.length_eq]
    rfl

/-- The last instant of 1969 and the start of 1970 have one text, and the second before them
an earlier one. -/
theorem format_ordered_epoch :
    format (-1) = format 0 ∧ format (-1000000000) ≠ format (-1) ∧
      Bytes.ofString (format (-1000000000)) ≤ Bytes.ofString (format (-1)) ∧
      (Bytes.ofString (format (-1))).length = 20 := by
  have hsecond : OnClock (-1000000000) := ⟨by decide, by decide⟩
  have hinstant : OnClock (-1) := ⟨by decide, by decide⟩
  have hstart : OnClock 0 := ⟨by decide, by decide⟩
  obtain ⟨-, hone, hlength, -, -⟩ := format_ordered hinstant hstart
  obtain ⟨hle, htwo, -, -, -⟩ := format_ordered hsecond hinstant
  refine ⟨hone.2 (by decide), fun heq => ?_, hle (by decide), hlength⟩
  have hcut := htwo.1 heq
  revert hcut
  decide

end Timestamp
end IssuerReadiness
