/-!
# Characters and decimal fields

The formats read and written here are ASCII formats, so the character classes
below know ASCII alone: no other character is blank, a digit or a letter of a
host name.  Decimal fields are lists of characters, the most significant digit
first.

* `Text.isBlank`, `Text.isDigit`, `Text.isAlphanumeric` --- the classes.
* `Text.ofDigits` --- the number that a list of digits writes.
* `Text.digits` --- the digits of a number in a field of fixed width.
* `ofDigits_digits` --- a number that fits its field is read back from it.
-/

namespace IssuerReadiness
namespace Text

/-- Space, tab, line feed, vertical tab, form feed and carriage return. -/
def isBlank (c : Char) : Bool :=
  c == ' ' || ('\t' ≤ c && c ≤ '\r')

/-- The ten ASCII digits. -/
def isDigit (c : Char) : Bool :=
  '0' ≤ c && c ≤ '9'

/-- ASCII letters of either case and ASCII digits. -/
def isAlphanumeric (c : Char) : Bool :=
  isDigit c || ('a' ≤ c && c ≤ 'z') || ('A' ≤ c && c ≤ 'Z')

/-- The value of a digit. -/
def digitValue (c : Char) : Nat :=
  c.toNat - '0'.toNat

/-- The digit that stands for the last decimal place of a number. -/
def lastDigit (n : Nat) : Char :=
  Char.ofNat ('0'.toNat + n % 10)

/-- The number that a list of digits writes. -/
def ofDigits (cs : List Char) : Nat :=
  cs.foldl (fun n c => 10 * n + digitValue c) 0

/-- The last `width` decimal places of a number, with leading zeros. -/
def digits : (width : Nat) → (n : Nat) → List Char
  | 0, _ => []
  | width + 1, n => digits width (n / 10) ++ [lastDigit n]

/-- A whole number in decimal, filled with zeros on the left up to `width`
characters; the sign, if any, is one of them. -/
def padded (width : Nat) (n : Int) : List Char :=
  if 0 ≤ n ∧ n < Nat.pow 10 width then digits width n.toNat
  else
    let text := (toString n).toList
    List.replicate (width - text.length) '0' ++ text

/-- The part of a text before its first NUL character, which is all that a
receiver of zero-terminated text sees. -/
def beforeNul (s : String) : String :=
  String.ofList (s.toList.takeWhile (· != '\x00'))

theorem beforeNul_of_notMem {s : String} (h : '\x00' ∉ s.toList) : beforeNul s = s := by
  have hall : (s.toList ++ []).takeWhile (· != '\x00') = s.toList ++ [] :=
    List.takeWhile_append_of_pos fun c hc => bne_iff_ne.2 fun hnul => h (hnul ▸ hc)
  rw [List.append_nil] at hall
  rw [beforeNul, hall, String.ofList_toList]

@[simp] theorem ofDigits_nil : ofDigits [] = 0 := rfl

@[simp] theorem ofDigits_append_singleton (cs : List Char) (c : Char) :
    ofDigits (cs ++ [c]) = 10 * ofDigits cs + digitValue c := by
  simp [ofDigits]

@[simp] theorem digitValue_lastDigit (n : Nat) : digitValue (lastDigit n) = n % 10 := by
  have h : n % 10 < 10 := Nat.mod_lt _ (by decide)
  unfold digitValue lastDigit
  generalize n % 10 = m at h
  revert m
  decide

@[simp] theorem length_digits (width n : Nat) : (digits width n).length = width := by
  induction width generalizing n with
  | zero => rfl
  | succ w ih => simp [digits, ih]

/-- A field of fixed width holds the number modulo a power of ten. -/
@[simp] theorem ofDigits_digits (width n : Nat) :
    ofDigits (digits width n) = n % Nat.pow 10 width := by
  induction width generalizing n with
  | zero => simp [digits, Nat.mod_one]
  | succ w ih =>
    have hpow : Nat.pow 10 (w + 1) = 10 * Nat.pow 10 w := Nat.mul_comm _ _
    rw [digits, ofDigits_append_singleton, ih, digitValue_lastDigit, hpow, Nat.mod_mul]
    omega

theorem isDigit_lastDigit (n : Nat) : isDigit (lastDigit n) = true := by
  have h : n % 10 < 10 := Nat.mod_lt _ (by decide)
  unfold lastDigit
  generalize n % 10 = m at h
  revert m
  decide

/-- A field of fixed width holds digits only. -/
theorem isDigit_of_mem_digits {width n : Nat} {c : Char} (h : c ∈ digits width n) :
    isDigit c = true := by
  induction width generalizing n with
  | zero => simp [digits] at h
  | succ w ih =>
    rcases List.mem_append.1 h with h | h
    · exact ih h
    · rw [List.mem_singleton.1 h]
      exact isDigit_lastDigit n

end Text
end IssuerReadiness
