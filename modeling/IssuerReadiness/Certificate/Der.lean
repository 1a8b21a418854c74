import IssuerReadiness.Bytes

/-!
# Elements of DER and BER

Certificates are written as elements: a tag, a length and that many bytes of
content, which may be elements again.  This module reads elements as the structure
of a certificate prescribes them, without keeping anything: a *part* takes the bytes
that are left and gives back those after it.

Writers of certificates use DER, but readers take all of BER: a length may be
written longer than it has to be, or left out, and then two zero bytes end the
content; a string may be cut into pieces.

## Parts

A part is asked for as optional or not.  It gives `none` if the bytes are at fault,
`some none` if it is optional and not there, and the bytes after it otherwise.

* `Header`, `header?` --- the tag and the length of an element.
* `primitive`, `any`, `choice` --- elements with a value.
* `sequence`, `many`, `explicit` --- elements made of elements.
-/

namespace IssuerReadiness
namespace Certificate
namespace Der

/-- A tag: its class, 0 for the universal one, and its number. -/
structure Tag where
  cls : Nat
  number : Nat
  deriving DecidableEq, Repr

/-- A tag of the universal class. -/
def Tag.universal (number : Nat) : Tag := ⟨0, number⟩

/-- A tag that has a meaning in its place only. -/
def Tag.contextual (number : Nat) : Tag := ⟨2, number⟩

/-- The start of an element, and what follows. -/
structure Header where
  tag : Tag
  /-- Whether the content is made of elements. -/
  constructed : Bool
  /-- Whether the length is left out. -/
  indefinite : Bool
  /-- The content; if the length is left out, everything that is left. -/
  content : Bytes
  /-- What follows the content; nothing if the length is left out. -/
  after : Bytes
  deriving DecidableEq, Repr

/-! ## Tags and lengths -/

/-- The number of a tag that takes several bytes, seven bits in each. -/
def longTag (n : Nat) : Bytes → Option (Nat × Bytes)
  | [] => none
  | b :: rest =>
      let n' := n * 128 + b.toNat % 128
      if b.toNat < 128 then some (n', rest)
      else if n' < 16777216 then longTag n' rest
      else none

/-- A class, whether the content is made of elements, and a number. -/
def tag? : Bytes → Option (Tag × Bool × Bytes)
  | [] => none
  | b :: rest =>
      let cls := b.toNat / 64
      let constructed := b.toNat / 32 % 2 == 1
      if b.toNat % 32 < 31 then some (⟨cls, b.toNat % 32⟩, constructed, rest)
      else (longTag 0 rest).map fun (n, rest) => (⟨cls, n⟩, constructed, rest)

/-- A number in base 256. -/
def bigEndian (bs : Bytes) : Nat :=
  bs.foldl (fun n b => n * 256 + b.toNat) 0

/-- A length, or nothing if it is left out; what follows it.  A length of several
bytes has at least one byte of content behind it. -/
def length? : Bytes → Option (Option Nat × Bytes)
  | [] => none
  | b :: rest =>
      if b = 0x80 then some (none, rest)
      else if b < 0x80 then some (some b.toNat, rest)
      else
        let count := b.toNat % 128
        let digits := (rest.take count).dropWhile (· == 0)
        if count < rest.length ∧ digits.length ≤ 8 ∧ bigEndian digits < 9223372036854775808 then
          some (some (bigEndian digits), rest.drop count)
        else none

/-- The start of an element.  Its content has to be there, and only an element made
of elements may leave out its length. -/
def header? (bs : Bytes) : Option Header := do
  let (tag, constructed, bs) ← tag? bs
  let (length, bs) ← length? bs
  match length with
  | some n =>
      if n ≤ bs.length then
        some { tag := tag, constructed := constructed, indefinite := false,
               content := bs.take n, after := bs.drop n }
      else none
  | none =>
      if constructed then
        some { tag := tag, constructed := constructed, indefinite := true,
               content := bs, after := [] }
      else none

/-- The two zero bytes that end a content without length. -/
def endMark? : Bytes → Option Bytes
  | 0 :: 0 :: rest => some rest
  | _ => none

/-- What follows the content of an element, given what is left of the content after
its last part: nothing may be left, or the end mark has to come. -/
def Header.close? (h : Header) (left : Bytes) : Option Bytes :=
  if h.indefinite then endMark? left
  else if left = [] then some h.after
  else none

/-! ## Content without further structure -/

/-- What follows the end mark that belongs to the `open`-th enclosing content; every
step takes at least one byte. -/
def skipOpen : (fuel : Nat) → (depth : Nat) → Bytes → Option Bytes
  | 0, _, _ => none
  | fuel + 1, depth, bs =>
      match endMark? bs with
      | some rest => if depth ≤ 1 then some rest else skipOpen fuel (depth - 1) rest
      | none => do
          let h ← header? bs
          if h.indefinite then skipOpen fuel (depth + 1) h.content
          else skipOpen fuel depth h.after

/-- What follows an element whose content is not looked at. -/
def Header.skip? (h : Header) : Option Bytes :=
  if h.indefinite then skipOpen (h.content.length + 1) 1 h.content else some h.after

mutual

/-- The pieces of a string that is cut into pieces, and what follows the last one.
Pieces may be cut again, five deep at most. -/
def pieces : (fuel : Nat) → (depth : Nat) → (indefinite : Bool) → Bytes →
    Option (Bytes × Bytes)
  | 0, _, _, _ => none
  | fuel + 1, depth, indefinite, bs =>
      if bs = [] then (if indefinite then none else some ([], []))
      else
        match endMark? bs with
        | some rest => if indefinite then some ([], rest) else none
        | none => do
            let (piece, rest) ← onePiece fuel depth bs
            let (others, rest) ← pieces fuel depth indefinite rest
            return (piece ++ others, rest)

/-- One piece of a string. -/
def onePiece : (fuel : Nat) → (depth : Nat) → Bytes → Option (Bytes × Bytes)
  | 0, _, _ => none
  | fuel + 1, depth, bs => do
      let h ← header? bs
      if h.constructed then
        if 5 ≤ depth then none
        else
          let (piece, rest) ← pieces fuel (depth + 1) h.indefinite h.content
          return (piece, if h.indefinite then rest else h.after)
      else return (h.content, h.after)

end

/-- The bytes of a string, cut into pieces or not, and what follows it. -/
def Header.string? (h : Header) : Option (Bytes × Bytes) :=
  if h.constructed then do
    let (value, rest) ← pieces (2 * h.content.length + 2) 0 h.indefinite h.content
    return (value, if h.indefinite then rest else h.after)
  else some (h.content, h.after)

/-! ## Values -/

/-- An integer is written with the fewest bytes. -/
def isInteger (bs : Bytes) : Bool :=
  match bs with
  | [] => false
  | [_] => true
  | a :: b :: rest =>
      if a = 0 then 0x80 ≤ b
      else if a = 0xFF then b < 0x80 || (b :: rest).all (· == 0)
      else true

/-- A bit string starts with the number of bits of its last byte that do not count. -/
def isBitString : Bytes → Bool
  | [] => false
  | unused :: _ => unused ≤ 7

/-- An object identifier is a list of numbers, seven bits in each byte; the last byte
of each is below 128, and none starts with 128. -/
def isObjectId (bs : Bytes) : Bool :=
  let rec starts : (fresh : Bool) → Bytes → Bool
    | _, [] => true
    | fresh, b :: rest => !(fresh && b == 0x80) && starts (b < 0x80) rest
  bs.getLast?.any (· < 0x80) && starts true bs

/-- Whether the bytes can be the value of an element with a universal tag. -/
def isValue (number : Nat) (bs : Bytes) : Bool :=
  match number with
  | 1 => bs.length == 1
  | 2 => isInteger bs
  | 3 => isBitString bs
  | 5 => bs.isEmpty
  | 6 => isObjectId bs
  | 10 => isInteger bs
  | 28 => bs.length % 4 == 0
  | 30 => bs.length % 2 == 0
  | _ => true

/-- The universal types whose value is never cut into pieces: boolean, integer, null,
object identifier and enumeration. -/
def isWhole (number : Nat) : Bool :=
  [1, 2, 5, 6, 10].contains number

/-! ## Parts -/

/-- What reads one element: optional or not, from the bytes that are left. -/
abbrev Part := (optional : Bool) → Bytes → Option (Option Bytes)

/-- The header of an element with a given tag, in the manner of a part. -/
def expect (tag : Tag) (optional : Bool) (bs : Bytes) : Option (Option Header) := do
  let h ← header? bs
  if h.tag = tag then return some h
  else if optional then return none
  else none

/-- The value of an element of a universal type and what follows it.  Sequences and
sets are passed over as they are. -/
def valueOf (number : Nat) (h : Header) : Option (Bytes × Bytes) :=
  if number = 16 ∨ number = 17 then
    if h.constructed then h.skip?.map fun rest => ([], rest) else none
  else if h.constructed && isWhole number then none
  else do
    let (value, rest) ← h.string?
    if isValue number value then some (value, rest) else none

/-- An element of a universal type under a given tag. -/
def primitiveAs (number : Nat) (tag : Tag) : Part := fun optional bs => do
  match ← expect tag optional bs with
  | none => return none
  | some h => return some (← valueOf number h).2

/-- An element of a universal type. -/
def primitive (number : Nat) : Part :=
  primitiveAs number (Tag.universal number)

/-- Any one element. -/
def any : Part := fun _ bs => do
  let h ← header? bs
  if h.tag.cls = 0 then return some (← valueOf h.tag.number h).2
  else return some (← h.skip?)

/-- An element of one of several universal types whose value passes a test. -/
def choice (numbers : List Nat) (test : Nat → Bytes → Bool) : Part := fun _ bs => do
  let h ← header? bs
  if h.tag.cls = 0 ∧ h.tag.number ∈ numbers then
    let (value, rest) ← valueOf h.tag.number h
    if test h.tag.number value then return some rest else none
  else none

/-- A part of a sequence, and whether it may be missing. -/
structure Field where
  optional : Bool
  part : Part

/-- A part that has to be there. -/
def required (part : Part) : Field := ⟨false, part⟩

/-- A part that may be missing. -/
def maybe (part : Part) : Field := ⟨true, part⟩

/-- Reads the fields of a sequence from its content and gives what follows the whole
sequence.  The content may end early if all fields that are left may be missing; the
last field may be missing only in this way. -/
def fields (h : Header) : List Field → Bytes → Option Bytes
  | [], bs => h.close? bs
  | f :: fs, bs =>
      if bs = [] ∨ (endMark? bs).isSome then
        if (f :: fs).all Field.optional then h.close? bs else none
      else do
        match ← f.part (f.optional && !fs.isEmpty) bs with
        | some rest => fields h fs rest
        | none => fields h fs bs

/-- A sequence of given fields. -/
def sequence (fs : List Field) : Part := fun optional bs => do
  match ← expect (Tag.universal 16) optional bs with
  | none => return none
  | some h => if h.constructed then return some (← fields h fs h.content) else none

/-- Reads elements up to the end of the content and gives what follows it; every one
takes at least one byte. -/
def items (h : Header) (part : Part) : (fuel : Nat) → Bytes → Option Bytes
  | 0, _ => none
  | fuel + 1, bs =>
      if bs = [] ∨ (endMark? bs).isSome then h.close? bs
      else do
        match ← part false bs with
        | some rest => items h part fuel rest
        | none => none

/-- Any number of elements of one kind under a universal tag, 16 for a sequence and
17 for a set. -/
def many (number : Nat) (part : Part) : Part := fun optional bs => do
  match ← expect (Tag.universal number) optional bs with
  | none => return none
  | some h => return some (← items h part (h.content.length + 1) h.content)

/-- An element that holds one other element, under a tag that has a meaning in its
place only. -/
def explicit (number : Nat) (part : Part) : Part := fun optional bs => do
  match ← expect (Tag.contextual number) optional bs with
  | none => return none
  | some h =>
      if h.constructed then
        match ← part false h.content with
        | some left => return some (← h.close? left)
        | none => none
      else none

end Der
end Certificate
end IssuerReadiness
