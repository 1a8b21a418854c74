import IssuerReadiness.Bytes
import IssuerReadiness.Condition

/-!
# Issuers

An issuer names a backend that signs certificates.  It lives in a namespace, or it
belongs to the whole cluster; this decides where the secrets that it refers to are
looked up (`Issuer.resourceNamespace`).

Of the backends only Venafi is described: the Trust Protection Platform (TPP), or
the cloud service.
-/

namespace IssuerReadiness

/-- Whom an issuer serves. -/
inductive IssuerKind where
  /-- One namespace, where its secrets are. -/
  | namespaced
  /-- The whole cluster; its secrets are in a namespace set aside for them. -/
  | cluster
  deriving DecidableEq, Repr

namespace IssuerKind

/-- The written form of a kind. -/
def name : IssuerKind → String
  | .namespaced => "Issuer"
  | .cluster => "ClusterIssuer"

/-- The kind with a given written form. -/
def ofName? (s : String) : Option IssuerKind :=
  if s = "Issuer" then some .namespaced
  else if s = "ClusterIssuer" then some .cluster
  else none

@[simp] theorem ofName?_name (k : IssuerKind) : ofName? k.name = some k := by
  cases k <;> decide

end IssuerKind

/-- A reference to one value of a secret; an empty key stands for the usual one. -/
structure SecretRef where
  name : String
  key : String := ""
  deriving DecidableEq, Repr

/-- The key that is meant, given the usual one. -/
def SecretRef.keyOr (ref : SecretRef) (usual : String) : String :=
  if ref.key = "" then usual else ref.key

/-- How to reach a Trust Protection Platform. -/
structure TppSpec where
  url : String
  /-- The name of the secret with the credentials. -/
  credentials : String
  /-- The trust bundle itself; none if empty. -/
  caBundle : Bytes := []
  /-- The secret that holds the trust bundle; it counts before the bundle itself. -/
  caBundleRef : Option SecretRef := none
  deriving DecidableEq, Repr

/-- How to reach the cloud service. -/
structure CloudSpec where
  /-- The base URL; the public service if empty. -/
  url : String := ""
  token : SecretRef
  deriving DecidableEq, Repr

/-- A Venafi backend. -/
structure VenafiSpec where
  zone : String
  tpp : Option TppSpec := none
  cloud : Option CloudSpec := none
  deriving DecidableEq, Repr

/-- An issuer and its status. -/
structure Issuer where
  kind : IssuerKind
  name : String
  /-- The namespace; empty for an issuer of the whole cluster. -/
  ns : String := ""
  generation : Int := 0
  venafi : Option VenafiSpec := none
  conditions : List Condition := []
  deriving DecidableEq, Repr

namespace Issuer

/-- Where the secrets of an issuer are looked up. -/
def resourceNamespace (issuer : Issuer) (clusterNamespace : String) : String :=
  match issuer.kind with
  | .namespaced => issuer.ns
  | .cluster => clusterNamespace

/-- Whether the issuer can be used: its first Ready condition holds. -/
def isReady (issuer : Issuer) : Bool :=
  (Condition.find? Condition.readyType issuer.conditions).any (·.status == .holds)

end Issuer

end IssuerReadiness
