import IssuerReadiness.Bytes

/-!
# Certificates

Trust bundles are only passed on, but one without a certificate is refused.  What a
certificate is, is for the cryptographic library to say that a program is put together
with, so the question is a parameter here, and what holds of connections holds for
whatever answer.
-/

namespace IssuerReadiness
namespace Certificate

/-- A library that reads certificates. -/
class Library where
  /-- Whether a byte string is a text in which a certificate can be read. -/
  isBundle : Bytes → Bool

/-- Whether a byte string is a trust bundle with at least one certificate. -/
def isBundle [Library] (b : Bytes) : Bool :=
  Library.isBundle b

end Certificate
end IssuerReadiness
