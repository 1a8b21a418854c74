import IssuerReadiness.Base64

/-!
# Blocks of armored text

Certificates and keys are passed around as text: a line that says `BEGIN` and a
label, lines of base64, and a line that says `END` and the same label.  Other text
may stand before, between and after such blocks.

## Lines

A line ends at a line feed, and after 254 bytes at the latest.  What is not printable
ASCII at the end of a line does not count, so a carriage return there is harmless.

## Header lines

A block may start with header lines, which a blank line ends.  That a block has
headers shows only at the blank line, or from a colon in a line before it.  After the
blank line all lines but the last must have 64 characters.

* `Block`, `next?` --- the first block of a text and what follows it.
* `payload?` --- the bytes of a block's base64.
-/

namespace IssuerReadiness
namespace Certificate
namespace Armor

/-! ## Lines -/

/-- The longest line that is read at once, in bytes. -/
def lineLimit : Nat := 254

/-- A line with its line feed, cut after `n` bytes, and what follows it. -/
def cutLine : (n : Nat) → Bytes → Bytes × Bytes
  | 0, bs => ([], bs)
  | _ + 1, [] => ([], [])
  | n + 1, b :: bs =>
      if b = 10 then ([b], bs)
      else
        let (line, rest) := cutLine n bs
        (b :: line, rest)

/-- The lines of a text, each with its line feed if it has one. -/
def lines : (fuel : Nat) → Bytes → List Bytes
  | _, [] => []
  | 0, _ => []
  | fuel + 1, bs =>
      let (line, rest) := cutLine lineLimit bs
      line :: lines fuel rest

/-- A byte that counts at the end of a line. -/
def isPrintable (b : UInt8) : Bool :=
  32 < b && b < 128

/-- A line without what does not count at its end. -/
def trim (line : Bytes) : Bytes :=
  (line.reverse.dropWhile (! isPrintable ·)).reverse

/-- Whether a line was cut before its line feed. -/
def isCut (line : Bytes) : Bool :=
  line.length == lineLimit && line.getLast? != some 10

/-! ## Boundaries -/

/-- What the first line of a block starts with. -/
def beginMark : Bytes := Bytes.ofString "-----BEGIN "

/-- What the last line of a block starts with. -/
def endMark : Bytes := Bytes.ofString "-----END "

/-- What both end with. -/
def tailMark : Bytes := Bytes.ofString "-----"

/-- The mark of UTF-8 text, which may stand before the first line. -/
def textMark : Bytes := [0xEF, 0xBB, 0xBF]

/-- A line without the mark of UTF-8 text. -/
def dropTextMark (line : Bytes) : Bytes :=
  if textMark.isPrefixOf line ∧ textMark.length < line.length then line.drop textMark.length
  else line

/-- The label of a first line. -/
def label? (line : Bytes) : Option Bytes :=
  if beginMark.isPrefixOf line ∧ tailMark.isSuffixOf line then
    some ((line.drop beginMark.length).take (line.length - beginMark.length - tailMark.length))
  else none

/-- Looks for the first line of a block and gives its label and the lines after it. -/
def findBegin : List Bytes → Option (Bytes × List Bytes)
  | [] => none
  | line :: rest =>
      match label? (trim line) with
      | some label => some (Bytes.beforeNul label, rest)
      | none => findBegin rest

/-! ## Blocks -/

/-- What is known of the header lines of a block. -/
inductive HeaderState where
  /-- Nothing yet. -/
  | undecided
  /-- A line had a colon, so there are some. -/
  | within
  /-- They are over. -/
  | past
  deriving DecidableEq, Repr

/-- A block as it is being read: the lines before the blank line and those after it,
each with a line feed. -/
structure Draft where
  state : HeaderState := .undecided
  /-- The line before was cut. -/
  afterCut : Bool := false
  /-- The line before was short, so it has to be the last one. -/
  afterShort : Bool := false
  before : Bytes := []
  behind : Bytes := []
  deriving DecidableEq, Repr

/-- A block: its label, its header lines and its base64. -/
structure Block where
  label : Bytes
  header : Bytes
  body : Bytes
  deriving DecidableEq, Repr

/-- Reads the lines of a block up to its last line. -/
def readBlock (label : Bytes) (d : Draft) : List Bytes → Option (Block × List Bytes)
  | [] => none
  | raw :: rest =>
      let state := if d.state = .undecided ∧ raw.contains 58 then .within else d.state
      let line := trim raw
      let cut := isCut raw
      if line = [] then
        if d.afterCut then readBlock label { d with state := state, afterCut := cut } rest
        else if state = .past then none
        else readBlock label { d with state := .past, afterCut := cut } rest
      else if endMark.isPrefixOf line then
        if line = endMark ++ label ++ tailMark then
          match state with
          | .undecided => some (⟨label, [], d.before⟩, rest)
          | .within => some (⟨label, d.before, []⟩, rest)
          | .past => some (⟨label, d.before, d.behind⟩, rest)
        else none
      else if d.afterShort then none
      else
        let kept := Bytes.beforeNul (line ++ [10])
        match state with
        | .past =>
            if 64 < line.length then none
            else
              readBlock label
                { d with state := state, afterCut := cut, behind := d.behind ++ kept,
                         afterShort := line.length < 64 } rest
        | _ =>
            readBlock label
              { d with state := state, afterCut := cut, before := d.before ++ kept } rest

/-- The first block of some lines and the lines after it. -/
def next? (ls : List Bytes) : Option (Block × List Bytes) := do
  let ls := match ls with
    | [] => []
    | line :: rest => dropTextMark line :: rest
  let (label, ls) ← findBegin ls
  readBlock label {} ls

/-! ## Base64 -/

/-- A blank inside base64. -/
def isGap (b : UInt8) : Bool :=
  b == 9 || b == 10 || b == 13 || b == 32

/-- The characters of base64 in a body; a hyphen ends it, and a byte that has no
place in it is a fault. -/
def letters : Bytes → Option (List Char)
  | [] => some []
  | b :: rest =>
      let c := Char.ofNat b.toNat
      if isGap b then letters rest
      else if c = '-' then some []
      else if Base64.isLetter c then (letters rest).map (c :: ·)
      else none

/-- Whether the `=` among the characters stand at the end and are at most two. -/
def isPadded (cs : List Char) : Bool :=
  let tail := cs.dropWhile (· != '=')
  tail.all (· == '=') && tail.length ≤ 2

/-- The bytes of the base64 of a body: full groups, `=` at the end only, and not
nothing at all. -/
def payload? (body : Bytes) : Option Bytes := do
  let cs ← letters body
  if cs ≠ [] ∧ cs.length % 4 = 0 ∧ isPadded cs then some (Base64.decodeLetters cs) else none

end Armor
end Certificate
end IssuerReadiness
