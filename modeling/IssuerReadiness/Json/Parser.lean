import IssuerReadiness.Json.Library

/-!
# A strict reader of JSON texts

This is one reader of JSON texts, the one that the program is built with here.  Its
grammar is that of RFC 8259, without extensions: no comments, no comma before
a closing bracket, no text after the value.  A text in a JSON string is a sequence
of Unicode characters, so an escaped surrogate that is not one of a pair is
refused.  There is one diagnosis for every refused text.

Every step takes the characters that are left and gives back those it leaves.
Values nest, so the readers of values, items and members call each other; each
call uses up one unit of fuel, and every value takes at least one character, so
the length of the text is fuel enough.

* `Json.Reader.value` --- reads one value.
* `Json.parse?` --- the value of a whole text.
* `Json.strict` --- the reader, for byte strings that are texts in UTF-8.
-/

namespace IssuerReadiness
namespace Json

namespace Reader

/-- The four characters that may stand between the parts of a value. -/
def isBlank (c : Char) : Bool :=
  c == ' ' || c == '\t' || c == '\n' || c == '\r'

/-- Leaves out blanks. -/
def skip (cs : List Char) : List Char :=
  cs.dropWhile isBlank

/-! ## Strings -/

/-- The value of a hexadecimal digit of either case. -/
def hexValue? (c : Char) : Option Nat :=
  if '0' ≤ c ∧ c ≤ '9' then some (c.toNat - '0'.toNat)
  else if 'a' ≤ c ∧ c ≤ 'f' then some (c.toNat - 'a'.toNat + 10)
  else if 'A' ≤ c ∧ c ≤ 'F' then some (c.toNat - 'A'.toNat + 10)
  else none

/-- The value of four hexadecimal digits. -/
def hex4? (a b c d : Char) : Option Nat := do
  return (((← hexValue? a) * 16 + (← hexValue? b)) * 16 + (← hexValue? c)) * 16 + (← hexValue? d)

/-- The character that a letter after a backslash stands for. -/
def escaped? (c : Char) : Option Char :=
  if c = '"' ∨ c = '\\' ∨ c = '/' then some c
  else if c = 'b' then some '\x08'
  else if c = 'f' then some '\x0c'
  else if c = 'n' then some '\n'
  else if c = 'r' then some '\r'
  else if c = 't' then some '\t'
  else none

/-- The first of a pair of surrogates. -/
def isHighSurrogate (n : Nat) : Bool :=
  0xD800 ≤ n && n < 0xDC00

/-- The second of a pair of surrogates. -/
def isLowSurrogate (n : Nat) : Bool :=
  0xDC00 ≤ n && n < 0xE000

/-- The character that a pair of surrogates stands for. -/
def pairedChar (high low : Nat) : Char :=
  Char.ofNat (0x10000 + (high - 0xD800) * 0x400 + (low - 0xDC00))

/-- The characters of a string after its opening quote, and what follows the
closing one. -/
def string : List Char → Option (List Char × List Char)
  | [] => none
  | '"' :: rest => some ([], rest)
  | '\\' :: 'u' :: a :: b :: c :: d :: '\\' :: 'u' :: e :: f :: g :: h :: rest => do
      let n ← hex4? a b c d
      if isHighSurrogate n then
        let low ← hex4? e f g h
        if isLowSurrogate low then
          let (s, rest) ← string rest
          return (pairedChar n low :: s, rest)
        else none
      else if isLowSurrogate n then none
      else
        let (s, rest) ← string ('\\' :: 'u' :: e :: f :: g :: h :: rest)
        return (Char.ofNat n :: s, rest)
  | '\\' :: 'u' :: a :: b :: c :: d :: rest => do
      let n ← hex4? a b c d
      if isHighSurrogate n || isLowSurrogate n then none
      else
        let (s, rest) ← string rest
        return (Char.ofNat n :: s, rest)
  | '\\' :: c :: rest => do
      let c ← escaped? c
      let (s, rest) ← string rest
      return (c :: s, rest)
  | c :: rest =>
      if c < ' ' ∨ c = '\\' then none
      else do
        let (s, rest) ← string rest
        return (c :: s, rest)

/-! ## Numbers -/

/-- At least one digit, and what follows the digits. -/
def digits (cs : List Char) : Option (List Char × List Char) :=
  let ds := cs.takeWhile Text.isDigit
  if ds = [] then none else some (ds, cs.dropWhile Text.isDigit)

/-- The digits before the point: a zero, or digits that start with no zero. -/
def wholePart (cs : List Char) : Option (List Char × List Char) :=
  match cs with
  | '0' :: rest => some (['0'], rest)
  | cs => digits cs

/-- The digits after a point, if there is one. -/
def fractionPart (cs : List Char) : Option (Option (List Char) × List Char) :=
  match cs with
  | '.' :: rest => (digits rest).map fun (ds, rest) => (some ds, rest)
  | cs => some (none, cs)

/-- The power of ten after an `e`, if there is one. -/
def exponentPart (cs : List Char) : Option (Option Int × List Char) :=
  let signed (cs : List Char) : Option (Option Int × List Char) :=
    match cs with
    | '-' :: rest => (digits rest).map fun (ds, rest) => (some (-(Text.ofDigits ds : Int)), rest)
    | '+' :: rest => (digits rest).map fun (ds, rest) => (some (Text.ofDigits ds : Int), rest)
    | cs => (digits cs).map fun (ds, rest) => (some (Text.ofDigits ds : Int), rest)
  match cs with
  | 'e' :: rest => signed rest
  | 'E' :: rest => signed rest
  | cs => some (none, cs)

/-- A number. -/
def number (cs : List Char) : Option (Number × List Char) := do
  let (negative, cs) := match cs with
    | '-' :: rest => (true, rest)
    | cs => (false, cs)
  let (whole, cs) ← wholePart cs
  let (fraction, cs) ← fractionPart cs
  let (exponent, cs) ← exponentPart cs
  return (Number.ofLiteral ⟨negative, whole, fraction, exponent⟩, cs)

/-! ## Values -/

mutual

/-- A value, after blanks. -/
def value : (fuel : Nat) → List Char → Option (Json × List Char)
  | 0, _ => none
  | fuel + 1, cs =>
      match skip cs with
      | 'n' :: 'u' :: 'l' :: 'l' :: rest => some (.null, rest)
      | 't' :: 'r' :: 'u' :: 'e' :: rest => some (.bool true, rest)
      | 'f' :: 'a' :: 'l' :: 's' :: 'e' :: rest => some (.bool false, rest)
      | '"' :: rest => (string rest).map fun (s, rest) => (.str (String.ofList s), rest)
      | '[' :: rest =>
          match skip rest with
          | ']' :: rest => some (.arr [], rest)
          | rest => (items fuel rest).map fun (vs, rest) => (.arr vs, rest)
      | '{' :: rest =>
          match skip rest with
          | '}' :: rest => some (.obj [], rest)
          | rest => (members fuel rest).map fun (ms, rest) => (Json.ofMembers ms, rest)
      | rest => (number rest).map fun (n, rest) => (.num n, rest)

/-- The items of an array up to and with its closing bracket; at least one. -/
def items : (fuel : Nat) → List Char → Option (List Json × List Char)
  | 0, _ => none
  | fuel + 1, cs => do
      let (v, rest) ← value fuel cs
      match skip rest with
      | ',' :: rest =>
          let (vs, rest) ← items fuel rest
          return (v :: vs, rest)
      | ']' :: rest => return ([v], rest)
      | _ => none

/-- The members of an object up to and with its closing brace; at least one. -/
def members : (fuel : Nat) → List Char → Option (List (String × Json) × List Char)
  | 0, _ => none
  | fuel + 1, cs =>
      match skip cs with
      | '"' :: rest => do
          let (key, rest) ← string rest
          match skip rest with
          | ':' :: rest =>
              let (v, rest) ← value fuel rest
              match skip rest with
              | ',' :: rest =>
                  let (ms, rest) ← members fuel rest
                  return ((String.ofList key, v) :: ms, rest)
              | '}' :: rest => return ([(String.ofList key, v)], rest)
              | _ => none
          | _ => none
      | _ => none

end

end Reader

/-- The value of a JSON text. -/
def parse? (s : String) : Option Json := do
  let cs := s.toList
  let (v, rest) ← Reader.value (cs.length + 1) cs
  if Reader.skip rest = [] then some v else none

/-- The value of a byte string that is a JSON text in UTF-8. -/
def parseBytes? (b : Bytes) : Option Json := do
  parse? (← b.toString?)

/-- What becomes of a byte string that is read strictly. -/
def strictReading (b : Bytes) : Reading :=
  match parseBytes? b with
  | some v => .value v ""
  | none => .refused "syntax error"

/-- The strict reader; it has one diagnosis, and never gives up. -/
@[reducible]
def strict : Library where
  read := strictReading

theorem throwsOnlyDeep_strict : @ThrowsOnlyDeep strict := by
  intro b text h
  change strictReading b = .thrown text at h
  unfold strictReading at h
  split at h <;> cases h

end Json
end IssuerReadiness
