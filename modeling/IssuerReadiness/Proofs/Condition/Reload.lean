import IssuerReadiness.Proofs.Issuer.RoundTrip

/-!
# Loading a status that was written

What is lost between a status that is written and the one that is loaded is in the times of
the conditions.  Each of them is cut to a whole second toward zero, which is meant: time
stamps have no fractions.  But one second is written and cannot be read, the last one of
1969.  Its number is -1, and the conversion of dates that the reader relies on answers -1
for a date that it cannot convert, so that the reader takes the one for the other.

The cut leads to this second from everywhere in the second before it, the end of that one
included, and from nowhere else (`lost_iff`); the instants behind it are written as the start
of 1970.  A time that cannot be read is not left out but refused, and with it the list it
stands in.  So one condition that has had its status since then is enough to make the whole
status unreadable.

* `Timestamp.Lost` --- the instants that are written and not read.
* `Timestamp.parse_format_eq` --- what is read of the text of an instant.
* `Condition.ofJson_toJson_of_written` --- what is read of a condition.
* `Issuer.conditionsOfJson_toJson_of_written` --- what is read of a status.
-/

namespace IssuerReadiness

open Manifest

/-! ## Times -/

namespace Timestamp

/-- The instants that are written as the last second of 1969. -/
def Lost (t : Int) : Prop :=
  -(2 * second) < t ∧ t ≤ -second

instance (t : Int) : Decidable (Lost t) :=
  inferInstanceAs (Decidable (_ ∧ _))

/-- An instant, cut to whole seconds toward zero. -/
def cut (t : Instant) : Instant := wholeSeconds t * second

/-- The lost instants are those that are cut to the second whose number means failure. -/
theorem lost_iff (t : Int) : Lost t ↔ wholeSeconds t = -1 := by
  obtain ⟨hpos, hneg⟩ := wholeSeconds_bounds t
  unfold second at hpos hneg
  unfold Lost second
  omega

/-- The text of the last second of 1969. -/
def lostText : String := "1969-12-31T23:59:59Z"

theorem format_of_lost {t : Instant} (h : Lost t) : format t = lostText := by
  have htext : String.ofList (formatSeconds (-1)) = lostText := by decide
  rw [format, (lost_iff t).1 h, htext]

theorem parse_lostText : parse lostText = none := by decide

/-- **What is read of the text of an instant** is the instant, cut to whole seconds, or
nothing if that is the last second of 1969. -/
theorem parse_format_eq {t : Instant} (h : OnClock t) :
    parse (format t) = if Lost t then none else some (cut t) := by
  split
  · rename_i hlost
    rw [format_of_lost hlost, parse_lostText]
  · rename_i hlost
    rw [lost_iff] at hlost
    exact parse_format h hlost

end Timestamp

/-! ## Conditions -/

namespace Condition

/-- A condition as it stands in a status: it has a type, its generation fits 64 bits, and
its time, if it has one, is on the clock. -/
structure Written (c : Condition) : Prop where
  type : c.type ≠ ""
  observedGeneration : c.observedGeneration < Number.signedLimit
  lastTransition : ∀ t ∈ c.lastTransition, Timestamp.OnClock t

/-- The time of the condition is written and not read. -/
def Lost (c : Condition) : Prop :=
  ∃ t ∈ c.lastTransition, Timestamp.Lost t

instance : DecidablePred Lost := fun c =>
  inferInstanceAs (Decidable (∃ t ∈ c.lastTransition, Timestamp.Lost t))

/-- A condition with its time cut to whole seconds. -/
def cut (c : Condition) : Condition :=
  { c with lastTransition := c.lastTransition.map Timestamp.cut }

/-- What the reader says of a condition whose time it cannot read. -/
def lostFailure : Failure :=
  .configuration ("status.conditions[].lastTransitionTime is not RFC 3339: " ++
    Timestamp.lostText)

theorem lost_iff {c : Condition} {t : Instant} (h : c.lastTransition = some t) :
    c.Lost ↔ Timestamp.Lost t := by
  constructor
  · rintro ⟨u, hu, hlost⟩
    obtain rfl : t = u := Option.some.inj (h.symm.trans hu)
    exact hlost
  · exact fun hlost => ⟨t, h, hlost⟩

/-- A condition is read back with its time cut to whole seconds, or refused for its time. -/
theorem ofJson_toJson_of_written {c : Condition} (h : c.Written) :
    Condition.ofJson c.toJson = if c.Lost then .error lostFailure else .ok c.cut := by
  rw [ofJson_toJson_eq h.type h.observedGeneration]
  cases htime : c.lastTransition with
  | none =>
    have hkept : ¬ c.Lost := by
      rintro ⟨t, ht, -⟩
      rw [htime] at ht
      cases ht
    rw [if_neg hkept, cut, htime]
    rfl
  | some t =>
    have hclock := h.lastTransition t htime
    rw [transitionAgain, transitionOfText, if_neg (Timestamp.format_ne_empty t),
      Timestamp.parse_format_eq hclock]
    by_cases hlost : Timestamp.Lost t
    · rw [if_pos hlost, if_pos ((lost_iff htime).2 hlost), Timestamp.format_of_lost hlost]
      rfl
    · rw [if_neg hlost, if_neg fun h => hlost ((lost_iff htime).1 h), cut, htime]
      rfl

end Condition

/-! ## The status of an issuer -/

/-- **What is loaded of what was written.**  The text of an instant is read as the instant,
cut to whole seconds toward zero, except for those that are cut to the last second of
1969: their text is refused.  And a status is loaded as it was written, with its times cut
in this way, unless one of them is such an instant: then the whole status is refused. -/
theorem Issuer.conditionsOfJson_toJson_of_written {t : Instant} (ht : Timestamp.OnClock t)
    {issuer : Issuer} (h : ∀ c ∈ issuer.conditions, c.Written) :
    Timestamp.parse (Timestamp.format t) =
        (if Timestamp.Lost t then none else some (Timestamp.cut t)) ∧
      conditionsOfJson issuer.toJson =
        if ∃ c ∈ issuer.conditions, c.Lost then .error Condition.lostFailure
        else .ok (issuer.conditions.map Condition.cut) := by
  refine ⟨Timestamp.parse_format_eq ht, ?_⟩
  rw [conditionsOfJson_toJson_eq]
  exact mapM_map_eq_ite fun c hc => Condition.ofJson_toJson_of_written (h c hc)

/-- An issuer with two conditions, one of which has had its status since before 1970. -/
def Issuer.longStanding : Issuer where
  kind := .cluster
  name := "issuer"
  conditions :=
    [{ type := "Ready", lastTransition := some (-2500000000) },
      { type := "Synced", lastTransition := some 1700000000123456789 }]

theorem Issuer.conditionsOfJson_toJson_longStanding :
    (∀ c ∈ longStanding.conditions, c.Written) ∧
      conditionsOfJson longStanding.toJson = .ok
        [{ type := "Ready", lastTransition := some (-2000000000) },
          { type := "Synced", lastTransition := some 1700000000000000000 }] ∧
      Timestamp.parse (Timestamp.format (-2500000000)) = some (-2000000000) := by
  have hbefore : Timestamp.OnClock (-2500000000) := ⟨by decide, by decide⟩
  have hafter : Timestamp.OnClock 1700000000123456789 := ⟨by decide, by decide⟩
  have hwritten : ∀ c ∈ longStanding.conditions, c.Written := by
    intro c hc
    simp only [longStanding, List.mem_cons, List.not_mem_nil, or_false] at hc
    rcases hc with rfl | rfl
    · refine ⟨by decide, by decide, ?_⟩
      rintro t ⟨⟩
      exact hbefore
    · refine ⟨by decide, by decide, ?_⟩
      rintro t ⟨⟩
      exact hafter
  obtain ⟨hinstant, hstatus⟩ := conditionsOfJson_toJson_of_written hbefore hwritten
  refine ⟨hwritten, hstatus.trans ?_, hinstant.trans ?_⟩
  · rw [if_neg (by decide)]
    rfl
  · rw [if_neg (by decide)]
    rfl

/-- The last second of 1969 is an instant on the clock whose text is refused. -/
theorem Timestamp.parse_format_lastSecond :
    OnClock (-1000000000) ∧ format (-1000000000) = lostText ∧
      parse (format (-1000000000)) = none := by
  unfold OnClock
  decide

end IssuerReadiness
