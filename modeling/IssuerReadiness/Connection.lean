import IssuerReadiness.BaseUrl
import IssuerReadiness.Certificate
import IssuerReadiness.Issuer
import IssuerReadiness.Secret

/-!
# Connections

A connection is everything that is needed to talk to one backend: where it is, with
which credentials, and whose certificates to trust.  It is resolved from the
description of the backend in an issuer and from the secrets of one namespace.

If an issuer describes both a TPP and the cloud service, the TPP counts.  The first
check that fails decides the failure: the description of the backend, the URL, the
secret with the credentials, the secret with the trust bundle, its value, and whether
the bundle holds a certificate.

The trust bundle is the value that the reference names, or the one in the issuer if
there is no reference.  One that is not empty must hold a certificate; one that is
empty stands for the certificates of the system, even if it was referred to.
-/

namespace IssuerReadiness

/-- Which service a connection leads to. -/
inductive Connector where
  | tpp | cloud
  deriving DecidableEq, Repr

/-- Everything that is needed to talk to one backend. -/
structure Connection where
  connector : Connector
  /-- The start of every URL; ends with a slash. -/
  baseUrl : String
  zone : String := ""
  username : Bytes := []
  password : Bytes := []
  accessToken : Bytes := []
  /-- The certificates to trust; those of the system if empty. -/
  caBundle : Bytes := []
  apiKey : Bytes := []
  userAgent : String := ""
  deriving DecidableEq, Repr

namespace Connection

/-- The base URL of the public cloud service. -/
def publicUrl : String := "https://api.venafi.cloud/"

/-- The usual key of a token of the cloud service. -/
def apiKeyKey : String := "api-key"

/-- The usual key of a trust bundle. -/
def caBundleKey : String := "ca.crt"

/-- The secret with a name, which must be there. -/
def requireSecret (secrets : SecretStore) (ns name : String) : Except Failure Secret :=
  match secrets.get? ns name with
  | some secret => .ok secret
  | none => .error (.secretNotFound ns name)

/-- The failure of a value that a secret does not have. -/
def noData (key ns name : String) : Failure :=
  .configuration ("no data for \"" ++ key ++ "\" in secret \"" ++ ns ++ "/" ++ name ++ "\"")

/-- The trust bundle that is asked for. -/
def bundleOf (tpp : TppSpec) (secrets : SecretStore) (ns : String) : Except Failure Bytes :=
  match tpp.caBundleRef with
  | some ref => do
      let key := ref.keyOr caBundleKey
      let secret ← requireSecret secrets ns ref.name
      match secret.value? key with
      | some bundle => .ok bundle
      | none => .error (noData key ns ref.name)
  | none => .ok tpp.caBundle

/-- Refuses a trust bundle that is not empty and holds no certificate. -/
def checkBundle [Certificate.Library] (bundle : Bytes) : Except Failure Bytes :=
  if bundle = [] ∨ Certificate.isBundle bundle then .ok bundle
  else .error (.configuration "failed to parse PEM trust bundle")

/-- The connection to a Trust Protection Platform. -/
def ofTpp [Certificate.Library] (zone : String) (tpp : TppSpec) (secrets : SecretStore)
    (ns userAgent : String) : Except Failure Connection := do
  let baseUrl ← BaseUrl.normalize tpp.url
  let credentials ← requireSecret secrets ns tpp.credentials
  let bundle ← bundleOf tpp secrets ns
  let bundle ← checkBundle bundle
  return {
    connector := .tpp
    baseUrl := baseUrl
    zone := zone
    username := (credentials.value? "username").getD []
    password := (credentials.value? "password").getD []
    accessToken := (credentials.value? "access-token").getD []
    caBundle := bundle
    userAgent := userAgent }

/-- The connection to the cloud service. -/
def ofCloud (zone : String) (cloud : CloudSpec) (secrets : SecretStore) (ns userAgent : String) :
    Except Failure Connection := do
  let baseUrl ← BaseUrl.normalize (if cloud.url = "" then publicUrl else cloud.url)
  let key := cloud.token.keyOr apiKeyKey
  let secret ← requireSecret secrets ns cloud.token.name
  let apiKey := (secret.value? key).getD []
  if apiKey = [] then .error (noData key ns cloud.token.name)
  else
    return {
      connector := .cloud
      baseUrl := baseUrl
      zone := zone
      apiKey := apiKey
      userAgent := userAgent }

/-- The connection that an issuer and the secrets of a namespace describe. -/
def resolve [Certificate.Library] (issuer : Issuer) (secrets : SecretStore)
    (ns userAgent : String) : Except Failure Connection :=
  match issuer.venafi with
  | none => .error (.configuration ("issuer " ++ issuer.name ++ " has no venafi configuration"))
  | some venafi =>
      match venafi.tpp, venafi.cloud with
      | some tpp, _ => ofTpp venafi.zone tpp secrets ns userAgent
      | none, some cloud => ofCloud venafi.zone cloud secrets ns userAgent
      | none, none =>
          .error (.configuration "neither Venafi Cloud or TPP configuration found")

end Connection

end IssuerReadiness
