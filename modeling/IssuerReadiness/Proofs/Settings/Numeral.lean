import IssuerReadiness.Proofs.Settings
import IssuerReadiness.Proofs.Text

/-!
# The integers that settings are read from

A numeric setting is meant to be an integer in decimal, with a sign perhaps, and what is not
one is meant to leave the default and a warning.  An integer that is too small or too large
for the setting is no mistake of this kind: it counts as the limit that it passes.

## Where the reader differs

The reader takes the integer that a text begins with, and asks whether it fits 32 bits,
before the limits are looked at.  So two kinds of texts are read otherwise than meant.  An
integer that does not fit is refused like a text that is none (`Oversized`), though it is
the plainest case of one that passes its limit.  And an integer with something else behind
it is read as that integer (`Trailed`), though the text as a whole is none.

All other texts are read as meant, and these two kinds are described just as completely, so
that every text is covered (`Limits.read_of_fits`, `Limits.read_of_not_fits`).

* `Numeral`, `Begins`: texts that are an integer, and texts that begin with one.
* `leadingInteger?_eq_some_iff`: the reader takes the integer that a text begins with.
* `Limits.intended_read_iff`: which texts are read as meant.
* `upheld_and_bounded`: all that the reading of settings guarantees.
-/

namespace IssuerReadiness
namespace Settings

/-! ## Integers as texts -/

/-- A sign, which may be left out before a number that is not negative. -/
inductive Sign where
  | none | plus | minus

/-- The written form of a sign. -/
def Sign.text : Sign → List Char
  | .none => []
  | .plus => ['+']
  | .minus => ['-']

/-- The integer with this sign and absolute value. -/
def Sign.apply : Sign → Nat → Int
  | .none, n => n
  | .plus, n => n
  | .minus, n => -n

/-- The text is an integer in decimal: perhaps blanks, perhaps a sign, and digits. -/
def Numeral (cs : List Char) (n : Int) : Prop :=
  ∃ blanks sign ds, (∀ c ∈ blanks, Text.isBlank c = true) ∧ ds ≠ [] ∧
    (∀ c ∈ ds, Text.isDigit c = true) ∧ cs = blanks ++ (Sign.text sign ++ ds) ∧
    n = sign.apply (Text.ofDigits ds)

/-- The text begins with an integer, which ends where no digit follows. -/
def Begins (cs : List Char) (n : Int) : Prop :=
  ∃ front rest, cs = front ++ rest ∧ Numeral front n ∧
    ∀ c, rest.head? = some c → Text.isDigit c = false

theorem Numeral.begins {cs : List Char} {n : Int} (h : Numeral cs n) : Begins cs n :=
  ⟨cs, [], (List.append_nil _).symm, h, nofun⟩

/-! ## The reader -/

/-- The number of the digits that a text begins with. -/
def leadingDigits? (cs : List Char) : Option Nat :=
  if cs.takeWhile Text.isDigit = [] then none else some (Text.ofDigits (cs.takeWhile Text.isDigit))

theorem leadingDigits?_append {ds rest : List Char} (hne : ds ≠ [])
    (hdigits : ∀ c ∈ ds, Text.isDigit c = true)
    (hrest : ∀ c, rest.head? = some c → Text.isDigit c = false) :
    leadingDigits? (ds ++ rest) = some (Text.ofDigits ds) := by
  rw [leadingDigits?, Text.takeWhile_append_eq hdigits hrest, if_neg hne]

theorem exists_of_leadingDigits? {cs : List Char} {n : Nat} (h : leadingDigits? cs = some n) :
    ∃ ds rest, cs = ds ++ rest ∧ ds ≠ [] ∧ (∀ c ∈ ds, Text.isDigit c = true) ∧
      (∀ c, rest.head? = some c → Text.isDigit c = false) ∧ n = Text.ofDigits ds := by
  unfold leadingDigits? at h
  split at h
  · cases h
  · rename_i hne
    refine ⟨_, _, List.takeWhile_append_dropWhile.symm, hne, fun c hc => List.mem_takeWhile_imp hc,
      fun c hc => ?_, (Option.some.inj h).symm⟩
    have hhead := List.head?_dropWhile_not Text.isDigit cs
    rw [hc] at hhead
    exact hhead

/-- The reader leaves out blanks, looks for a sign, and takes the digits behind it. -/
theorem leadingInteger?_eq {s : String} {cs : List Char} (sign : Sign)
    (hsign : sign = .none → ∀ c, cs.head? = some c → c ≠ '-' ∧ c ≠ '+')
    (hdrop : s.toList.dropWhile Text.isBlank = sign.text ++ cs) :
    leadingInteger? s = (leadingDigits? cs).map sign.apply := by
  have hdigits : ∀ cs : List Char,
      (if cs.takeWhile Text.isDigit = [] then none
        else some (Text.ofDigits (cs.takeWhile Text.isDigit) : Int)) =
        (leadingDigits? cs).map fun n : Nat => (n : Int) := by
    intro cs
    unfold leadingDigits?
    split <;> rfl
  unfold leadingInteger?
  rw [hdrop]
  simp only [hdigits]
  cases sign with
  | none =>
    rw [Sign.text, List.nil_append]
    split
    · exact absurd rfl (hsign rfl '-' rfl).1
    · exact absurd rfl (hsign rfl '+' rfl).2
    · rfl
  | plus => rfl
  | minus => exact Option.map_map ..

/-- There is a sign, or the reader takes none for one. -/
theorem exists_sign (cs : List Char) :
    ∃ sign rest, cs = Sign.text sign ++ rest ∧
      (sign = .none → ∀ c, rest.head? = some c → c ≠ '-' ∧ c ≠ '+') := by
  cases cs with
  | nil => exact ⟨.none, [], rfl, fun _ => nofun⟩
  | cons c cs =>
    by_cases hminus : c = '-'
    · exact ⟨.minus, cs, by rw [hminus]; rfl, nofun⟩
    by_cases hplus : c = '+'
    · exact ⟨.plus, cs, by rw [hplus]; rfl, nofun⟩
    refine ⟨.none, c :: cs, rfl, fun _ d hd => ?_⟩
    cases hd
    exact ⟨hminus, hplus⟩

/-- The reader takes the integer that a text begins with. -/
theorem leadingInteger?_eq_some_iff {s : String} {n : Int} :
    leadingInteger? s = some n ↔ Begins s.toList n := by
  constructor
  · intro h
    obtain ⟨sign, cs, hdrop, hsign⟩ := exists_sign (s.toList.dropWhile Text.isBlank)
    rw [leadingInteger?_eq sign hsign hdrop] at h
    obtain ⟨value, hvalue, rfl⟩ := Option.map_eq_some_iff.1 h
    obtain ⟨ds, rest, rfl, hne, hdigits, hrest, rfl⟩ := exists_of_leadingDigits? hvalue
    refine ⟨s.toList.takeWhile Text.isBlank ++ (sign.text ++ ds), rest, ?_,
      ⟨_, sign, ds, fun c hc => List.mem_takeWhile_imp hc, hne, hdigits, rfl, rfl⟩, hrest⟩
    rw [List.append_assoc, List.append_assoc, ← hdrop, List.takeWhile_append_dropWhile]
  · rintro ⟨front, rest, hs, ⟨blanks, sign, ds, hblanks, hne, hdigits, rfl, rfl⟩, hrest⟩
    have hfirst : ∀ c, (ds ++ rest).head? = some c → Text.isDigit c = true := by
      obtain ⟨d, ds', rfl⟩ := List.exists_cons_of_ne_nil hne
      intro c hc
      cases hc
      exact hdigits d List.mem_cons_self
    -- A digit is no sign, and neither a digit nor a sign is a blank.
    have hsign : sign = .none → ∀ c, (ds ++ rest).head? = some c → c ≠ '-' ∧ c ≠ '+' := by
      intro _ c hc
      have hdigit := hfirst c hc
      constructor <;>
      · rintro rfl
        revert hdigit
        decide
    have hdrop : s.toList.dropWhile Text.isBlank = sign.text ++ (ds ++ rest) := by
      rw [hs, List.append_assoc, List.append_assoc]
      refine Text.dropWhile_append_eq hblanks fun c hc => ?_
      cases sign with
      | none => exact Text.isBlank_of_isDigit (hfirst c hc)
      | plus | minus => cases hc; decide
    rw [leadingInteger?_eq sign hsign hdrop, leadingDigits?_append hne hdigits hrest]
    rfl

theorem Begins.unique {s : String} {m n : Int} (hm : Begins s.toList m) (hn : Begins s.toList n) :
    m = n :=
  Option.some.inj ((leadingInteger?_eq_some_iff.2 hm).symm.trans (leadingInteger?_eq_some_iff.2 hn))

namespace Limits

variable {l : Limits} {s : String} {m n : Int}

/-! ## Settings -/

/-- What the log says of a text that leaves the default. -/
def warning (l : Limits) (s : String) : String :=
  "Invalid integer env value '" ++ s ++ "', using default " ++ toString l.default

theorem clamp_eq (h : l.Sound) (n : Int) : l.clamp n = max l.least (min n l.greatest) := by
  have hlimits : l.least ≤ l.greatest := Int.le_trans h.least h.greatest
  unfold clamp
  split
  · omega
  · split <;> omega

theorem clamp_mono (h : l.Sound) (hle : m ≤ n) : l.clamp m ≤ l.clamp n := by
  rw [clamp_eq h, clamp_eq h]
  omega

/-- An integer of 32 bits is read, whatever stands behind it. -/
theorem read_of_fits (hbegins : Begins (Text.beforeNul s).toList n) (hfits : fitsSetting n = true) :
    l.read s = (l.clamp n, none) := by
  unfold read
  dsimp only
  rw [leadingInteger?_eq_some_iff.2 hbegins, Option.filter_some_pos hfits]

/-- Every other text leaves the default. -/
theorem read_of_not_fits
    (h : ∀ n, Begins (Text.beforeNul s).toList n → fitsSetting n = false) :
    l.read s = (l.default, some (l.warning (Text.beforeNul s))) := by
  have hnone : (leadingInteger? (Text.beforeNul s)).filter fitsSetting = none := by
    cases hn : leadingInteger? (Text.beforeNul s) with
    | none => rfl
    | some n =>
      rw [Option.filter_some_neg (h n (leadingInteger?_eq_some_iff.1 hn))]
  unfold read
  dsimp only
  rw [hnone]
  rfl

/-- What the setting of a text is meant to be. -/
structure Intended (l : Limits) (text : String) (r : Int × Option String) : Prop where
  /-- An integer sets the nearest number within the limits, without a warning. -/
  integer : ∀ n, Numeral text.toList n → r = (max l.least (min n l.greatest), none)
  /-- What is no integer leaves the default, with a warning. -/
  other : (∀ n, ¬ Numeral text.toList n) → r = (l.default, some (l.warning text))

/-- The text is an integer that does not fit 32 bits. -/
def Oversized (text : String) : Prop :=
  ∃ n, Numeral text.toList n ∧ fitsSetting n = false

/-- The text begins with an integer of 32 bits, but is none. -/
def Trailed (text : String) (n : Int) : Prop :=
  Begins text.toList n ∧ fitsSetting n = true ∧ ∀ n, ¬ Numeral text.toList n

/-- The other texts are read as they are meant, and no text of these two kinds is. -/
theorem intended_read_iff (h : l.Sound) (s : String) :
    l.Intended (Text.beforeNul s) (l.read s) ↔
      ¬ Oversized (Text.beforeNul s) ∧ ∀ n, ¬ Trailed (Text.beforeNul s) n := by
  constructor
  · intro hintended
    refine ⟨?_, ?_⟩
    · rintro ⟨n, hnumeral, hfits⟩
      have hread := read_of_not_fits (l := l) fun m hm => hm.unique hnumeral.begins ▸ hfits
      cases (Prod.mk.inj (hread.symm.trans (hintended.integer n hnumeral))).2
    · rintro n ⟨hbegins, hfits, hnone⟩
      have hread := read_of_fits (l := l) hbegins hfits
      cases (Prod.mk.inj (hread.symm.trans (hintended.other hnone))).2
  · rintro ⟨hsize, htrail⟩
    refine ⟨fun n hnumeral => ?_, fun hnone => ?_⟩
    · have hfits : fitsSetting n = true :=
        Bool.of_not_eq_false fun hfits => hsize ⟨n, hnumeral, hfits⟩
      rw [read_of_fits hnumeral.begins hfits, clamp_eq h]
    · exact read_of_not_fits fun n hbegins =>
        Bool.of_not_eq_true fun hfits => htrail n ⟨hbegins, hfits, hnone⟩

/-- What the reading of a numeric setting guarantees, for any value of its variable. -/
structure Upheld (l : Limits) : Prop where
  /-- A text is read as it is meant, unless it is an integer that does not fit 32 bits or
  one of 32 bits with something else behind it. -/
  intended_iff : ∀ s, l.Intended (Text.beforeNul s) (l.read s) ↔
    ¬ Oversized (Text.beforeNul s) ∧ ∀ n, ¬ Trailed (Text.beforeNul s) n
  /-- An integer that does not fit leaves the default, with a warning. -/
  oversized : ∀ s, Oversized (Text.beforeNul s) →
    l.read s = (l.default, some (l.warning (Text.beforeNul s)))
  /-- What stands behind an integer that fits is not looked at. -/
  trailed : ∀ s n, Trailed (Text.beforeNul s) n →
    l.read s = (max l.least (min n l.greatest), none)
  /-- Of two integers that fit, the greater one does not set the smaller number. -/
  mono : ∀ s t m n, Numeral (Text.beforeNul s).toList m → Numeral (Text.beforeNul t).toList n →
    fitsSetting m = true → fitsSetting n = true → m ≤ n → (l.read s).1 ≤ (l.read t).1

theorem upheld (h : l.Sound) : l.Upheld where
  intended_iff := intended_read_iff h
  oversized := by
    rintro s ⟨n, hnumeral, hfits⟩
    exact read_of_not_fits fun m hm => hm.unique hnumeral.begins ▸ hfits
  trailed := by
    rintro s n ⟨hbegins, hfits, -⟩
    rw [read_of_fits hbegins hfits, clamp_eq h]
  mono := by
    intro s t m n hm hn hfitsm hfitsn hle
    rw [read_of_fits hm.begins hfitsm, read_of_fits hn.begins hfitsn]
    exact clamp_mono h hle

end Limits

/-- **Limits hold.**  Take any limits with the default between them and any text.  An integer of
32 bits counts as the nearest number within the limits, and greater integers do not count for
less; a text that does not begin with an integer leaves the default and a warning.  An integer
that does not fit 32 bits does so too, and one that fits counts whatever stands behind it; these
two kinds of texts are the only ones that are not read as they are meant.  No environment
moves a setting of the command out of its limits. -/
theorem upheld_and_bounded (l : Limits) (h : l.Sound) :
    l.Upheld ∧ ∀ environment : String → Option String,
      let settings := (ofEnvironment environment).1
      (1 ≤ settings.setupTimeoutSeconds ∧ settings.setupTimeoutSeconds ≤ 600) ∧
        (1 ≤ settings.connectTimeoutSeconds ∧ settings.connectTimeoutSeconds ≤ 120) ∧
        (1 ≤ settings.eventCapacity ∧ settings.eventCapacity ≤ 10000) := by
  refine ⟨Limits.upheld h, fun environment => ?_⟩
  obtain ⟨hsetup, hconnect⟩ := bounds_timeouts environment
  exact ⟨hsetup, hconnect, bounds_eventCapacity environment⟩

theorem upheld_setupTimeout : setupTimeout.Sound ∧ setupTimeout.Upheld :=
  ⟨⟨by decide, by decide⟩, (upheld_and_bounded setupTimeout ⟨by decide, by decide⟩).1⟩

/-- An integer beyond 32 bits is refused, though it only passes the limit of the setting. -/
theorem read_beyondWord :
    Numeral "99999999999".toList 99999999999 ∧
      setupTimeout.read "99999999999" =
        (30, some "Invalid integer env value '99999999999', using default 30") ∧
      ¬ setupTimeout.Intended "99999999999" (setupTimeout.read "99999999999") := by
  have hnumeral : Numeral "99999999999".toList 99999999999 :=
    ⟨[], .none, "99999999999".toList, nofun, by decide, List.all_eq_true.1 (by decide), rfl,
      by decide⟩
  have hread : setupTimeout.read "99999999999" =
      (30, some "Invalid integer env value '99999999999', using default 30") := by decide
  refine ⟨hnumeral, hread, fun hintended => ?_⟩
  cases (Prod.mk.inj (hread.symm.trans (hintended.integer _ hnumeral))).2

example : setupTimeout.read "45abc" = (45, none) := by decide

end Settings
end IssuerReadiness
