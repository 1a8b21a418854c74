import IssuerReadiness.Bytes

/-!
# Base64

Secret values and inline trust bundles are carried as base64 text with the
standard alphabet.  Writing is canonical: groups of four characters, the last
one filled with one or two `=`.

Reading is laxer than writing, in one way that matters.  A text is refused only
for its length, which must be a multiple of four, or for a character outside the
alphabet and `=`.  Where `=` stands is not checked: everywhere it reads as the
value 0.  Groups are read in blocks of 256, the last of which may be shorter, and
a `=` takes away a byte only as one of the last two characters of a block.  So
`====` reads as one zero byte, `QQ==QQ==` keeps the bytes of its first group, and
unused bits of the last group are ignored.

* `encode` --- bytes to canonical text.
* `decode` --- text to bytes, or nothing for a text that is not `isWellSpelled`.
* `Canonical` --- the texts that `encode` writes, said without `encode`.
-/

namespace IssuerReadiness
namespace Base64

/-- The character that stands for a value below 64. -/
def symbol (v : Nat) : Char :=
  if v < 26 then Char.ofNat ('A'.toNat + v)
  else if v < 52 then Char.ofNat ('a'.toNat + (v - 26))
  else if v < 62 then Char.ofNat ('0'.toNat + (v - 52))
  else if v = 62 then '+'
  else '/'

/-- The value that a character of the alphabet stands for. -/
def symbolValue? (c : Char) : Option Nat :=
  if 'A' ≤ c ∧ c ≤ 'Z' then some (c.toNat - 'A'.toNat)
  else if 'a' ≤ c ∧ c ≤ 'z' then some (c.toNat - 'a'.toNat + 26)
  else if '0' ≤ c ∧ c ≤ '9' then some (c.toNat - '0'.toNat + 52)
  else if c = '+' then some 62
  else if c = '/' then some 63
  else none

/-- The value that a character is read as: `=` counts as 0. -/
def readValue (c : Char) : Nat :=
  (symbolValue? c).getD 0

/-- A character that may stand in base64 text. -/
def isLetter (c : Char) : Bool :=
  (symbolValue? c).isSome || c == '='

/-- The only check that reading makes: the length and the characters. -/
def isWellSpelled (cs : List Char) : Bool :=
  cs.all isLetter && cs.length % 4 == 0

/-! ## Writing -/

/-- The groups of four characters that a byte string is written as. -/
def encodeGroups : Bytes → List Char
  | [] => []
  | [a] => [symbol (a.toNat / 4), symbol (a.toNat % 4 * 16), '=', '=']
  | [a, b] =>
      [symbol (a.toNat / 4), symbol (a.toNat % 4 * 16 + b.toNat / 16),
        symbol (b.toNat % 16 * 4), '=']
  | a :: b :: c :: rest =>
      symbol (a.toNat / 4) :: symbol (a.toNat % 4 * 16 + b.toNat / 16) ::
        symbol (b.toNat % 16 * 4 + c.toNat / 64) :: symbol (c.toNat % 64) ::
        encodeGroups rest

/-- A byte string as base64 text. -/
def encode (b : Bytes) : String :=
  String.ofList (encodeGroups b)

/-! ## Reading -/

/-- The three bytes of one group of four values. -/
def groupBytes (v w x y : Nat) : Bytes :=
  [UInt8.ofNat (v * 4 + w / 16), UInt8.ofNat (w % 16 * 16 + x / 4), UInt8.ofNat (x % 4 * 64 + y)]

/-- How many groups make a full block. -/
def blockGroups : Nat := 256

/-- How many bytes the end of a block takes away: the number of `=` that its last
group closes with, at most two. -/
def padding (r s : Char) : Nat :=
  if s = '=' then if r = '=' then 2 else 1 else 0

/-- The bytes that a text writes, whatever its spelling; `place` groups of its first
block were read before. -/
def decodeFrom : (place : Nat) → List Char → Bytes
  | place, p :: q :: r :: s :: rest =>
      let bytes := groupBytes (readValue p) (readValue q) (readValue r) (readValue s)
      if rest = [] then bytes.take (3 - padding r s)
      else if place + 1 = blockGroups then bytes.take (3 - padding r s) ++ decodeFrom 0 rest
      else bytes ++ decodeFrom (place + 1) rest
  | _, _ => []

/-- The bytes that a text writes, whatever its spelling. -/
def decodeLetters (cs : List Char) : Bytes :=
  decodeFrom 0 cs

/-- What is said of a text that is not well spelled. -/
def illegalText : String := "illegal base64 data"

/-- The bytes that a well-spelled text writes. -/
def decode (s : String) : Option Bytes :=
  if isWellSpelled s.toList then some (decodeLetters s.toList) else none

/-! ## The written form -/

/-- The texts of the canonical form: full groups of alphabet characters, and at
the end perhaps one group that stands for one or two bytes, its unused bits zero
and its free places filled with `=`. -/
inductive Canonical : List Char → Prop where
  | nil : Canonical []
  | one (v w : Nat) (hv : v < 64) (hw : w < 64) (h : w % 16 = 0) :
      Canonical [symbol v, symbol w, '=', '=']
  | two (v w x : Nat) (hv : v < 64) (hw : w < 64) (hx : x < 64) (h : x % 4 = 0) :
      Canonical [symbol v, symbol w, symbol x, '=']
  | group (v w x y : Nat) (rest : List Char) (hv : v < 64) (hw : w < 64) (hx : x < 64)
      (hy : y < 64) (h : Canonical rest) :
      Canonical (symbol v :: symbol w :: symbol x :: symbol y :: rest)

@[simp] theorem encodeGroups_nil : encodeGroups [] = [] := rfl

@[simp] theorem decodeFrom_nil (place : Nat) : decodeFrom place [] = [] := rfl

@[simp] theorem decode_empty : decode "" = some [] := by decide

example : decode "QQ==QQ==" = some [0x41, 0, 0, 0x41] := by decide

end Base64
end IssuerReadiness
