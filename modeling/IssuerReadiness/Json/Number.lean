import IssuerReadiness.Text

/-!
# Numbers of JSON texts

A JSON text writes a number in decimal.  What is kept of it depends on how it is
written: an integer without point and exponent that fits 64 bits, with or without
a sign, is kept exactly; every other number is rounded to binary64, to the
nearest and in a tie to the even significand.

Only one question is asked about a number later on: whether it is whole and
within 64 bits.  So a rounded number is kept as `significand * 2 ^ exponent`, and
the question is answered in integers (`Number.integral?`).

* `Literal` --- a number as it is written.
* `Number.ofLiteral` --- what is kept of it.
* `Number.integral?` --- the integer that a number is, if it is one.
-/

namespace IssuerReadiness

/-- A number as a JSON text writes it, taken apart. -/
structure Literal where
  negative : Bool
  /-- The digits before the point. -/
  whole : List Char
  /-- The digits after the point; nothing if there is no point. -/
  fraction : Option (List Char)
  /-- The power of ten after `e`; nothing if there is no `e`. -/
  exponent : Option Int
  deriving DecidableEq, Repr

/-- A number as it is kept. -/
inductive Number where
  /-- An integer of at most 64 bits that was written as one. -/
  | exact (n : Int)
  /-- A binary64 number, `significand * 2 ^ exponent`. -/
  | rounded (significand exponent : Int)
  /-- A number beyond the range of binary64. -/
  | infinite (negative : Bool)
  deriving DecidableEq, Repr

namespace Number

/-- The quotient of two positive numbers, rounded to the nearest integer, in a
tie to the even one. -/
def roundQuotient (num den : Nat) : Nat :=
  let q := num / den
  let r := num % den
  if 2 * r < den then q
  else if den < 2 * r then q + 1
  else if q % 2 = 0 then q
  else q + 1

/-- The exponent of the binary64 number nearest to the positive quotient
`num / den`: the one that leaves 53 bits of significand, and never less than the
exponent of the smallest number. -/
def binaryExponent (num den : Nat) : Int :=
  let guess : Int := (num.log2 : Int) - den.log2
  let reachesGuess :=
    if 0 ≤ guess then decide (den * Nat.pow 2 guess.toNat ≤ num)
    else decide (den ≤ num * Nat.pow 2 (-guess).toNat)
  max (-1074) ((if reachesGuess then guess else guess - 1) - 52)

/-- The binary64 number nearest to the quotient of two positive numbers, as a
significand and an exponent; nothing if it is beyond the range. -/
def nearest (num den : Nat) : Option (Nat × Int) :=
  let e := binaryExponent num den
  let m := if 0 ≤ e then roundQuotient num (den * Nat.pow 2 e.toNat)
    else roundQuotient (num * Nat.pow 2 (-e).toNat) den
  if (m.log2 : Int) + e < 1024 then some (m, e) else none

/-- The binary64 number nearest to `± n * 10 ^ e`.  The powers of ten that are far
outside the range are told apart before they are computed. -/
def ofDecimal (negative : Bool) (n : Nat) (e : Int) : Number :=
  let sign : Int := if negative then -1 else 1
  let places : Int := (Nat.toDigits 10 n).length
  if n = 0 ∨ e + places < -330 then .rounded 0 0
  else if 330 < e + places then .infinite negative
  else
    let result :=
      if 0 ≤ e then nearest (n * Nat.pow 10 e.toNat) 1 else nearest n (Nat.pow 10 (-e).toNat)
    match result with
    | some (m, e) => .rounded (sign * m) e
    | none => .infinite negative

/-- The least number that needs more than 64 bits with a sign. -/
def signedLimit : Int := 9223372036854775808

/-- The least number that needs more than 64 bits without a sign. -/
def wordLimit : Int := 18446744073709551616

/-- The integers that are kept exactly: those of 64 bits, with a sign or without. -/
def fitsWord (n : Int) : Bool :=
  -signedLimit ≤ n && n < wordLimit

/-- What is kept of a number. -/
def ofLiteral (l : Literal) : Number :=
  let n := Text.ofDigits l.whole
  let value : Int := if l.negative then -n else n
  if l.fraction = none ∧ l.exponent = none ∧ fitsWord value then .exact value
  else
    let fraction := l.fraction.getD []
    ofDecimal l.negative (Text.ofDigits (l.whole ++ fraction))
      (l.exponent.getD 0 - fraction.length)

/-- The integer of at most 64 bits that a number is, however it was written. -/
def integral? : Number → Option Int
  | .exact n => some n
  | .rounded m e =>
      let value? : Option Int :=
        if 0 ≤ e then some (m * Nat.pow 2 e.toNat)
        else if m % Nat.pow 2 (-e).toNat = 0 then some (m / Nat.pow 2 (-e).toNat)
        else none
      value?.filter fitsWord
  | .infinite _ => none

/-- Whether the number was written as an integer and kept exactly. -/
def isExact : Number → Bool
  | .exact _ => true
  | _ => false

@[simp] theorem integral?_exact (n : Int) : integral? (.exact n) = some n := rfl

example : integral? (ofLiteral ⟨false, ['1'], none, some 3⟩) = some 1000 := by decide

example : ofLiteral ⟨false, ['0'], some ['1'], none⟩ = .rounded 7205759403792794 (-56) := by
  decide +kernel

end Number

end IssuerReadiness
