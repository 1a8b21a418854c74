import IssuerReadiness.Issuer
import IssuerReadiness.Secret
import IssuerReadiness.Session

/-!
# Clients

A client of a backend can be asked whether the backend is there (`Client.ping`).
Some clients can also check the credentials that they were given; the others have
no operation for it at all, and whoever uses a client skips the check.

A builder turns an issuer and its secrets into a client.  It may fail, and it may
give no client.
-/

namespace IssuerReadiness

/-- A client of a backend. -/
structure Client where
  /-- Asks whether the backend is there. -/
  ping : Context → Action Unit
  /-- Checks the credentials, if the client can. -/
  verify? : Option (Context → Action Unit)

/-- What a client is built from. -/
structure BuildRequest where
  /-- Where the secrets of the issuer are. -/
  ns : String
  secrets : SecretStore
  issuer : Issuer
  /-- Whether the calls of the client are to be counted. -/
  metered : Bool
  logger : Logger
  clusterNamespace : String

/-- Turns an issuer and its secrets into a client. -/
abbrev Builder := BuildRequest → Action (Option Client)

/-- A builder that is given as a function; there has to be one. -/
def Builder.ofFunction : Option Builder → Except Failure Builder
  | some f => .ok f
  | none => .error (.invalidArgument "FunctionClientBuilder: function cannot be empty")

/-- Whether a client can check its credentials. -/
def Client.canVerify (c : Client) : Bool :=
  c.verify?.isSome

end IssuerReadiness
