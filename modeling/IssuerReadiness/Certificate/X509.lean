import IssuerReadiness.Certificate.Der

/-!
# The structure of certificates

A certificate is a sequence of three parts: what is certified, the algorithm of the
signature, and the signature.  This module says of which elements they are made.  It
looks at no signature, no date and no extension: a byte string is taken for a
certificate if it starts with elements of the right structure, and what follows
them does not count.

* `certificate` --- the structure.
* `isCertificate` --- whether a byte string starts with a certificate.
-/

namespace IssuerReadiness
namespace Certificate

open Der

/-- An algorithm and its parameters. -/
def algorithm : Part :=
  sequence [required (primitive 6), maybe any]

/-- The types that a part of a name may have. -/
def nameTypes : List Nat :=
  [3, 7, 8, 9, 11, 12, 13, 14, 15, 16, 18, 19, 20, 22, 28, 29, 30]

/-- Numbers that stand for a Unicode character. -/
def isScalar (n : Nat) : Bool :=
  n < 0xD800 || (0xDFFF < n && n < 0x110000)

/-- Whether every two bytes are a character. -/
def isWide : Bytes → Bool
  | a :: b :: rest => isScalar (bigEndian [a, b]) && isWide rest
  | _ => true

/-- Whether every four bytes are a character. -/
def isUniversal : Bytes → Bool
  | a :: b :: c :: d :: rest => isScalar (bigEndian [a, b, c, d]) && isUniversal rest
  | _ => true

/-- Whether a part of a name can be compared with others: its text must be one in the
encoding of its type. -/
def isNameText (number : Nat) (value : Bytes) : Bool :=
  match number with
  | 12 => value.toString?.isSome
  | 28 => isUniversal value
  | 30 => isWide value
  | _ => true

/-- A name: a sequence of sets of attributes. -/
def distinguishedName : Part :=
  many 16 (many 17 (sequence
    [required (primitive 6), required (choice nameTypes isNameText)]))

/-- A time, with two or four digits for the year. -/
def time : Part :=
  choice [23, 24] fun _ _ => true

/-- The times between which a certificate is valid. -/
def validity : Part :=
  sequence [required time, required time]

/-- The longest object identifier, in bytes, that the algorithm of a public key may
have: 128 numbers of 32 bits each, at seven bits in a byte. -/
def longestKeyAlgorithm : Nat := 586

/-- The algorithm of a public key and its parameters.  The key is looked up by the
written form of the identifier, so that must not be too long. -/
def keyAlgorithm : Part :=
  sequence [required (choice [6] fun _ id => id.length ≤ longestKeyAlgorithm), maybe any]

/-- A public key. -/
def publicKey : Part :=
  sequence [required keyAlgorithm, required (primitive 3)]

/-- An extension. -/
def extension : Part :=
  sequence [required (primitive 6), maybe (primitive 1), required (primitive 4)]

/-- What is certified: version, serial number, algorithm, issuer, validity, subject,
public key, the unique identifiers of issuer and subject, and extensions. -/
def certified : Part :=
  sequence
    [maybe (explicit 0 (primitive 2)), required (primitive 2), required algorithm,
      required distinguishedName, required validity, required distinguishedName,
      required publicKey, maybe (primitiveAs 3 (Tag.contextual 1)),
      maybe (primitiveAs 3 (Tag.contextual 2)), maybe (explicit 3 (many 16 extension))]

/-- A certificate. -/
def certificate : Part :=
  sequence [required certified, required algorithm, required (primitive 3)]

/-- Whether a byte string starts with a certificate. -/
def isCertificate (bs : Bytes) : Bool :=
  (certificate false bs).isSome

end Certificate
end IssuerReadiness
