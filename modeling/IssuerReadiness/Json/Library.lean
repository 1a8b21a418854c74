import IssuerReadiness.Bytes
import IssuerReadiness.Json.Basic

/-!
# The reader of JSON texts

Which texts are read, and as which value, is not decided here: it depends on the JSON
library that a program is put together with.  Such libraries differ in what they make of
comments, of a comma before a closing bracket or of text behind the value, and in what they
say of a text that they refuse.  So the reader is a parameter of everything that reads a
text, and what holds of a manifest or of an answer holds for whatever it reads.

A reader gives a value or refuses the text, and there is a third outcome.  It calls itself
for every value inside of another one, and beyond a certain depth it gives up with an
exception of its own, which is not the refusal that its callers look for.

* `Json.Reading` --- the three outcomes.
* `Json.Library` --- a reader.
* `Json.ThrowsOnlyDeep` --- what its documentation promises about the third outcome.
-/

namespace IssuerReadiness
namespace Json

/-- What becomes of a byte string that is read as a JSON text. -/
inductive Reading where
  /-- It is read as a value; there may be something to say about it all the same. -/
  | value (v : Json) (notes : String)
  /-- It is refused, with a diagnosis. -/
  | refused (diagnosis : String)
  /-- The reader gives up with an exception. -/
  | thrown (text : String)

/-- A reader of JSON texts. -/
class Library where
  read : Bytes → Reading

/-- Reads a byte string as a JSON text. -/
def read [Library] (b : Bytes) : Reading :=
  Library.read b

/-- How deep the values of a text may stand inside of each other before a reader gives
up. -/
def stackLimit : Nat := 1000

/-- How many arrays and objects a text may open: its brackets and braces.  No value in it
is inside of more than these. -/
def openings (b : Bytes) : Nat :=
  b.countP fun x => x == '['.toUInt8 || x == '\x7b'.toUInt8

/-- The reader gives up only on texts whose values may stand that deep. -/
def ThrowsOnlyDeep [Library] : Prop :=
  ∀ b text, read b = .thrown text → stackLimit ≤ openings b

end Json
end IssuerReadiness
