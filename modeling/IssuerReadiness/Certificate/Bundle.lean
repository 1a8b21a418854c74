import IssuerReadiness.Certificate
import IssuerReadiness.Certificate.Armor
import IssuerReadiness.Certificate.X509

/-!
# Trust bundles in armored text

This is one way to read certificates, the one that the program is built with here.  A
trust bundle is armored text with certificates in it.  Its blocks are read in
order.  A block with another label is passed over, but it has to be well formed all
the same: the first block that is not ends the reading, and so does a block that is
labeled as a certificate and is none, or whose content is encrypted.

A bundle is good for something if one certificate was read before the reading ended.
-/

namespace IssuerReadiness
namespace Certificate

/-- The labels of certificates. -/
def labels : List Bytes :=
  [Bytes.ofString "CERTIFICATE", Bytes.ofString "X509 CERTIFICATE"]

/-- Whether a certificate is read from some lines before the reading ends; every
block takes at least two lines. -/
def holdsCertificate : (fuel : Nat) → List Bytes → Bool
  | 0, _ => false
  | fuel + 1, ls =>
      match Armor.next? ls with
      | none => false
      | some (block, rest) =>
          match Armor.payload? block.body with
          | none => false
          | some payload =>
              if block.label ∈ labels then block.header.isEmpty && isCertificate payload
              else holdsCertificate fuel rest

/-- The reader of certificates in armored text. -/
@[reducible]
def pem : Library where
  isBundle b :=
    let ls := Armor.lines (b.length + 1) b
    holdsCertificate (ls.length + 1) ls

end Certificate
end IssuerReadiness
