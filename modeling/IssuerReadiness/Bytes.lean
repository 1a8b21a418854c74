/-!
# Byte strings

Secret values, trust bundles and message bodies are byte strings: nothing
promises that they are text.  This module fixes the one way from a text to its
bytes (`Bytes.ofString`, UTF-8), the partial way back (`Bytes.toString?`), and
what is left of a byte string when its receiver takes the first zero byte for
the end (`Bytes.beforeNul`).
-/

namespace IssuerReadiness

/-- A byte string. -/
abbrev Bytes := List UInt8

namespace Bytes

/-- The UTF-8 form of a text. -/
def ofString (s : String) : Bytes :=
  s.toList.flatMap String.utf8EncodeChar

@[simp] theorem ofString_empty : ofString "" = [] := rfl

theorem ofString_append (s t : String) : ofString (s ++ t) = ofString s ++ ofString t := by
  simp [ofString]

/-- The text whose UTF-8 form a byte string is, if there is one. -/
def toString? (b : Bytes) : Option String :=
  String.fromUTF8? ⟨b.toArray⟩

/-- The bytes before the first zero byte. -/
def beforeNul (b : Bytes) : Bytes :=
  b.takeWhile (· != 0)

@[simp] theorem beforeNul_nil : beforeNul [] = [] := rfl

theorem beforeNul_append {label : Bytes} (h : ∀ b ∈ label, b ≠ 0) (rest : Bytes) :
    beforeNul (label ++ rest) = label ++ beforeNul rest :=
  List.takeWhile_append_of_pos fun b hb => bne_iff_ne.2 (h b hb)

end Bytes

end IssuerReadiness
