import Mathlib.Data.List.Forall2
import Mathlib.Data.List.Induction
import Mathlib.Data.List.TakeWhile
import IssuerReadiness.Bytes
import IssuerReadiness.Text

/-!
# Runs, digits, order and shape

What the formats rest on when they read and write numbers in decimal fields.  A reader takes
a run of characters of one class, which ends in one place only (`Text.run_append_inj`).  A
field and its number determine each other once the width is fixed (`Text.digits_ofDigits`),
and fields of one width are ordered as their numbers (`Text.digits_lt_digits`).

A format that consists of such fields and of marks between them gives all its texts one
shape.  The shape says that they are ASCII, and ASCII texts have one byte for a character,
in the same order, so that what is known of the texts is known of their bytes.

* `Text.run_append_inj` --- a run of characters of one class ends in one place.
* `Text.digits_ofDigits` --- the digits of the number that digits write.
* `Text.append_lt_append`, `Text.digits_lt_digits` --- the order of fields.
* `Text.HasShape` --- texts that match a pattern character by character.
* `Bytes.ofString_ofList`, `Bytes.ofString_lt_ofString` --- the bytes of an ASCII text.
-/

namespace IssuerReadiness
namespace Text

/-! ## Runs of characters -/

/-- A run of characters of a class ends before the first one that is not of the class. -/
theorem takeWhile_append_eq {p : Char → Bool} {run rest : List Char}
    (hrun : ∀ c ∈ run, p c = true) (hrest : ∀ c, rest.head? = some c → p c = false) :
    (run ++ rest).takeWhile p = run := by
  rw [List.takeWhile_append_of_pos hrun]
  cases rest with
  | nil => simp
  | cons c rest => simp [hrest c rfl]

theorem dropWhile_append_eq {p : Char → Bool} {run rest : List Char}
    (hrun : ∀ c ∈ run, p c = true) (hrest : ∀ c, rest.head? = some c → p c = false) :
    (run ++ rest).dropWhile p = rest := by
  rw [List.dropWhile_append_of_pos hrun]
  cases rest with
  | nil => simp
  | cons c rest => simp [hrest c rfl]

/-- A run that is followed by no further character of its class is determined by the text. -/
theorem run_append_inj {p : Char → Bool} {run rest run' rest' : List Char}
    (hrun : ∀ c ∈ run, p c = true) (hrest : ∀ c, rest.head? = some c → p c = false)
    (hrun' : ∀ c ∈ run', p c = true) (hrest' : ∀ c, rest'.head? = some c → p c = false)
    (h : run ++ rest = run' ++ rest') : run = run' ∧ rest = rest' := by
  have htake := congrArg (List.takeWhile p) h
  have hdrop := congrArg (List.dropWhile p) h
  rw [takeWhile_append_eq hrun hrest, takeWhile_append_eq hrun' hrest'] at htake
  rw [dropWhile_append_eq hrun hrest, dropWhile_append_eq hrun' hrest'] at hdrop
  exact ⟨htake, hdrop⟩

/-- No digit is a blank. -/
theorem isBlank_of_isDigit {c : Char} (h : isDigit c = true) : isBlank c = false := by
  have hspace : c ≠ ' ' := by
    rintro rfl
    revert h
    decide
  have hcontrol : ¬ c ≤ '\r' := by
    intro hle
    simp only [isDigit, Bool.and_eq_true, decide_eq_true_eq] at h
    exact absurd (Char.le_trans h.1 hle) (by decide)
  simp [isBlank, hspace, hcontrol]

/-! ## Digits and numbers -/

theorem toNat_of_isDigit {c : Char} (h : isDigit c = true) : 48 ≤ c.toNat ∧ c.toNat ≤ 57 := by
  simp only [isDigit, Bool.and_eq_true, decide_eq_true_eq, Char.le_def,
    UInt32.le_iff_toNat_le] at h
  exact h

theorem digitValue_lt {c : Char} (h : isDigit c = true) : digitValue c < 10 := by
  have hcode := toNat_of_isDigit h
  have hzero : '0'.toNat = 48 := rfl
  unfold digitValue
  omega

theorem lastDigit_digitValue {c : Char} (h : isDigit c = true) (n : Nat) :
    lastDigit (10 * n + digitValue c) = c := by
  have hcode := toNat_of_isDigit h
  have hlast : '0'.toNat + (10 * n + digitValue c) % 10 = c.toNat := by
    have hzero : '0'.toNat = 48 := rfl
    unfold digitValue
    omega
  rw [lastDigit, hlast, Char.ofNat_toNat]

theorem ofDigits_lt {ds : List Char} (h : ∀ c ∈ ds, isDigit c = true) :
    ofDigits ds < Nat.pow 10 ds.length := by
  induction ds using List.reverseRecOn with
  | nil => decide
  | append_singleton ds c ih =>
    have hlt := ih fun d hd => h d (List.mem_append_left _ hd)
    have hdigit := digitValue_lt (h c (by simp))
    have hpow : Nat.pow 10 (ds ++ [c]).length = 10 * Nat.pow 10 ds.length := by
      rw [List.length_append, List.length_singleton]
      exact Nat.mul_comm _ _
    rw [ofDigits_append_singleton, hpow]
    omega

/-- Digits are the digits of their number. -/
theorem digits_ofDigits {ds : List Char} (h : ∀ c ∈ ds, isDigit c = true) :
    digits ds.length (ofDigits ds) = ds := by
  induction ds using List.reverseRecOn with
  | nil => rfl
  | append_singleton ds c ih =>
    have hc := h c (by simp)
    have hquotient : (10 * ofDigits ds + digitValue c) / 10 = ofDigits ds := by
      have hlt := digitValue_lt hc
      omega
    rw [ofDigits_append_singleton, List.length_append, List.length_singleton, digits, hquotient,
      ih fun d hd => h d (List.mem_append_left _ hd), lastDigit_digitValue hc]

/-! ## Order -/

/-- Of two texts of one length, the one that comes first does so whatever follows them. -/
theorem append_lt_append {cs ds : List Char} (hlength : cs.length = ds.length) (h : cs < ds)
    (rest rest' : List Char) : cs ++ rest < ds ++ rest' := by
  induction cs generalizing ds with
  | nil =>
    rw [List.eq_nil_of_length_eq_zero hlength.symm] at h
    exact absurd h (List.not_lt_nil [])
  | cons c cs ih =>
    cases ds with
    | nil => cases hlength
    | cons d ds =>
      rw [List.cons_append, List.cons_append, List.cons_lt_cons_iff]
      rcases List.cons_lt_cons_iff.1 h with hlt | ⟨rfl, hlt⟩
      · exact .inl hlt
      · exact .inr ⟨rfl, ih (Nat.succ.inj hlength) hlt⟩

theorem lastDigit_lt {m n : Nat} (h : m % 10 < n % 10) : lastDigit m < lastDigit n := by
  have hall : ∀ i < 10, ∀ j < 10, i < j →
      Char.ofNat ('0'.toNat + i) < Char.ofNat ('0'.toNat + j) := by decide
  exact hall _ (Nat.mod_lt _ (by decide)) _ (Nat.mod_lt _ (by decide)) h

/-- Fields of one width are ordered as their numbers. -/
theorem digits_lt_digits {width m n : Nat} (h : m < n) (hn : n < Nat.pow 10 width) :
    digits width m < digits width n := by
  induction width generalizing m n with
  | zero =>
    have hpow : Nat.pow 10 0 = 1 := rfl
    omega
  | succ width ih =>
    have hpow : Nat.pow 10 (width + 1) = 10 * Nat.pow 10 width := Nat.mul_comm _ _
    rw [digits, digits]
    rcases Nat.lt_or_ge (m / 10) (n / 10) with hlt | hge
    · exact append_lt_append (by rw [length_digits, length_digits]) (ih hlt (by omega)) _ _
    · have hfront : m / 10 = n / 10 := by omega
      rw [hfront]
      exact List.append_left_lt (List.Lex.rel (lastDigit_lt (by omega)))

/-! ## Shapes -/

/-- What may stand in the place of a character of a pattern: for `d` a digit, and for every
other character the character itself. -/
def Matches (p c : Char) : Prop :=
  if p = 'd' then isDigit c = true else c = p

/-- The text has a character for each one of the pattern, which may stand in its place. -/
def HasShape (pattern cs : List Char) : Prop :=
  List.Forall₂ Matches pattern cs

theorem HasShape.append {ps qs cs ds : List Char} (h : HasShape ps cs) (h' : HasShape qs ds) :
    HasShape (ps ++ qs) (cs ++ ds) :=
  List.rel_append h h'

theorem hasShape_digits (width n : Nat) : HasShape (List.replicate width 'd') (digits width n) := by
  induction width generalizing n with
  | zero => exact .nil
  | succ width ih =>
    rw [List.replicate_succ', digits]
    exact (ih _).append (.cons (isDigit_lastDigit n) .nil)

/-- A text has only ASCII characters if its pattern has. -/
theorem HasShape.ascii {pattern cs : List Char} (h : HasShape pattern cs)
    (hpattern : ∀ p ∈ pattern, p.toNat < 128) : ∀ c ∈ cs, c.toNat < 128 := by
  induction h with
  | nil => exact nofun
  | @cons p c ps cs hmatch _ ih =>
    have hp := hpattern p List.mem_cons_self
    have hc : c.toNat < 128 := by
      unfold Matches at hmatch
      split at hmatch
      · have := toNat_of_isDigit hmatch
        omega
      · rw [hmatch]
        exact hp
    intro d hd
    rcases List.mem_cons.1 hd with rfl | hd
    · exact hc
    · exact ih (fun q hq => hpattern q (List.mem_cons_of_mem _ hq)) d hd

end Text

/-! ## Bytes -/

namespace Bytes

/-- An ASCII text has one byte for a character. -/
theorem ofString_ofList {cs : List Char} (h : ∀ c ∈ cs, c.toNat < 128) :
    ofString (String.ofList cs) = cs.map fun c => c.val.toUInt8 := by
  unfold ofString
  rw [String.toList_ofList]
  induction cs with
  | nil => rfl
  | cons c cs ih =>
    have hc : c.toNat < 128 := h c List.mem_cons_self
    have hsize : c.utf8Size = 1 := by
      rw [Char.utf8Size_eq_one_iff, UInt32.le_iff_toNat_le]
      show c.toNat ≤ 127
      omega
    rw [List.flatMap_cons, String.utf8EncodeChar_eq_singleton hsize, List.map_cons,
      ih fun d hd => h d (List.mem_cons_of_mem _ hd)]
    rfl

/-- The bytes of ASCII texts are ordered as the texts. -/
theorem ofString_lt_ofString {cs ds : List Char} (hcs : ∀ c ∈ cs, c.toNat < 128)
    (hds : ∀ c ∈ ds, c.toNat < 128) (h : cs < ds) :
    ofString (String.ofList cs) < ofString (String.ofList ds) := by
  rw [ofString_ofList hcs, ofString_ofList hds]
  induction cs generalizing ds with
  | nil =>
    cases ds with
    | nil => exact absurd h (List.not_lt_nil [])
    | cons d ds => exact List.nil_lt_cons _ _
  | cons c cs ih =>
    cases ds with
    | nil => exact absurd h (List.not_lt_nil _)
    | cons d ds =>
      have hc := hcs c List.mem_cons_self
      have hd := hds d List.mem_cons_self
      rw [List.map_cons, List.map_cons, List.cons_lt_cons_iff]
      rcases List.cons_lt_cons_iff.1 h with hlt | ⟨rfl, hlt⟩
      · refine .inl (UInt8.lt_iff_toNat_lt.2 ?_)
        have hcode : c.toNat < d.toNat := hlt
        simp only [UInt32.toNat_toUInt8]
        show c.toNat % 256 < d.toNat % 256
        omega
      · exact .inr ⟨rfl, ih (fun a ha => hcs a (List.mem_cons_of_mem _ ha))
          (fun a ha => hds a (List.mem_cons_of_mem _ ha)) hlt⟩

end Bytes

end IssuerReadiness
