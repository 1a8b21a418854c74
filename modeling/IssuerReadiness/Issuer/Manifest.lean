import IssuerReadiness.Base64
import IssuerReadiness.Issuer
import IssuerReadiness.Manifest

/-!
# Manifests of issuers

An issuer is written as a manifest, a JSON object, and read back from one.

Reading checks the members in a fixed order and refuses the manifest at the first
one at fault, with a message that names its place.  It accepts more than writing
produces: a member that is null counts as absent, a whole number may be written as
a decimal fraction, the text of a status that is not known counts as unknown, and
base64 and time stamps are read in their lax forms.

Writing leaves out what is empty, zero or absent.

* `Issuer.ofJson`, `Issuer.ofBytes` --- reading.
* `Issuer.toJson` --- writing.
-/

namespace IssuerReadiness

open Manifest

/-- A reference to a value of a secret. -/
def SecretRef.ofJson (v : Json) (place : String) : Except Failure SecretRef :=
  if v.isObject then do
    let name ← requiredText v "name" place
    let key ← optionalText v "key" place
    return { name := name, key := key }
  else refuse (place ++ " must be an object")

/-- A trust bundle that is written as base64 text. -/
def TppSpec.bundleOfText (s place : String) : Except Failure Bytes :=
  if s = "" then .ok []
  else
    match Base64.decode s with
    | some b => .ok b
    | none => refuse (place ++ ".caBundle: " ++ Base64.illegalText)

/-- The reference to a trust bundle; it is looked at if it is there at all, so that
it must not be null. -/
def TppSpec.bundleRefOfJson (v : Json) (place : String) : Except Failure (Option SecretRef) :=
  if v.hasField "caBundleSecretRef" then
    (SecretRef.ofJson (v.field "caBundleSecretRef") (place ++ ".caBundleSecretRef")).map some
  else .ok none

/-- The description of a Trust Protection Platform. -/
def TppSpec.ofJson (v : Json) : Except Failure TppSpec := do
  let place := "spec.venafi.tpp"
  let url ← requiredText v "url" place
  let ref := v.field "credentialsRef"
  if ref.isObject then
    let credentials ← requiredText ref "name" (place ++ ".credentialsRef")
    let text ← optionalText v "caBundle" place
    let caBundle ← bundleOfText text place
    let caBundleRef ← bundleRefOfJson v place
    return { url := url, credentials := credentials, caBundle := caBundle,
             caBundleRef := caBundleRef }
  else refuse (place ++ ".credentialsRef is required")

/-- The description of the cloud service. -/
def CloudSpec.ofJson (v : Json) : Except Failure CloudSpec := do
  let place := "spec.venafi.cloud"
  let url ← optionalText v "url" place
  if v.hasField "apiTokenSecretRef" then
    let token ← SecretRef.ofJson (v.field "apiTokenSecretRef") (place ++ ".apiTokenSecretRef")
    return { url := url, token := token }
  else refuse (place ++ ".apiTokenSecretRef is required")

/-- The description of a Venafi backend. -/
def VenafiSpec.ofJson (v : Json) : Except Failure VenafiSpec := do
  let zone ← requiredText v "zone" "spec.venafi"
  let tpp ← optionalObject v "tpp" "spec.venafi"
  let tpp ← if tpp.isObject then (TppSpec.ofJson tpp).map some else .ok none
  let cloud ← optionalObject v "cloud" "spec.venafi"
  let cloud ← if cloud.isObject then (CloudSpec.ofJson cloud).map some else .ok none
  return { zone := zone, tpp := tpp, cloud := cloud }

/-- The time of the last change of a condition. -/
def Condition.transitionOfText (s place : String) : Except Failure (Option Instant) :=
  if s = "" then .ok none
  else
    match Timestamp.parse s with
    | some t => .ok (some t)
    | none => refuse (place ++ ".lastTransitionTime is not RFC 3339: " ++ s)

/-- A condition of a manifest. -/
def Condition.ofJson (v : Json) : Except Failure Condition := do
  let place := "status.conditions[]"
  if v.isObject then
    let type ← requiredText v "type" place
    let status ← optionalText v "status" place
    let reason ← optionalText v "reason" place
    let message ← optionalText v "message" place
    let generation ← optionalInt v "observedGeneration" place
    let time ← optionalText v "lastTransitionTime" place
    let lastTransition ← transitionOfText time place
    return { type := type, status := (ConditionStatus.ofName? status).getD .unknown,
             reason := reason, message := message, lastTransition := lastTransition,
             observedGeneration := generation }
  else refuse (place ++ " must be an object")

/-- The conditions of the status of a manifest. -/
def Condition.listOfJson (v : Json) : Except Failure (List Condition) :=
  match v with
  | .null => .ok []
  | .arr vs => vs.mapM Condition.ofJson
  | _ => refuse "status.conditions must be an array"

namespace Issuer

/-- The kind that a manifest states. -/
def kindOfJson (v : Json) : Except Failure IssuerKind := do
  let kind ← requiredText v "kind" "manifest"
  match IssuerKind.ofName? kind with
  | some k => return k
  | none => refuse ("manifest.kind must be Issuer or ClusterIssuer, got " ++ kind)

/-- The backend that a manifest describes. -/
def venafiOfJson (v : Json) : Except Failure (Option VenafiSpec) := do
  let spec ← optionalObject v "spec" "manifest"
  let venafi ← optionalObject spec "venafi" "spec"
  if venafi.isObject then (VenafiSpec.ofJson venafi).map some else return none

/-- The conditions that a manifest states. -/
def conditionsOfJson (v : Json) : Except Failure (List Condition) := do
  let status ← optionalObject v "status" "manifest"
  Condition.listOfJson (status.field "conditions")

/-- The issuer of a manifest. -/
def ofJson (v : Json) : Except Failure Issuer := do
  if v.isObject then
    let kind ← kindOfJson v
    let metadata := v.field "metadata"
    if metadata.isObject then
      let name ← requiredText metadata "name" "metadata"
      let ns ← optionalText metadata "namespace" "metadata"
      let generation ← optionalInt metadata "generation" "metadata"
      if kind = .namespaced ∧ ns = "" then
        refuse "metadata.namespace is required for an Issuer"
      else
        let venafi ← venafiOfJson v
        let conditions ← conditionsOfJson v
        return { kind := kind, name := name, ns := ns, generation := generation,
                 venafi := venafi, conditions := conditions }
    else refuse "metadata is required"
  else refuse "issuer manifest must be a JSON object"

/-- The issuer of the text of a manifest. -/
def ofBytes [Json.Library] (b : Bytes) : Except Failure Issuer := do
  ofJson (← jsonOfBytes "issuer" b)

end Issuer

/-! ## Writing -/

/-- A member that is left out if its text is empty. -/
def Manifest.textMember (key s : String) : List (String × Json) :=
  if s = "" then [] else [(key, .str s)]

/-- A reference to a value of a secret. -/
def SecretRef.toJson (ref : SecretRef) : Json :=
  Json.ofMembers (("name", .str ref.name) :: textMember "key" ref.key)

/-- The description of a Trust Protection Platform. -/
def TppSpec.toJson (tpp : TppSpec) : Json :=
  Json.ofMembers (
    [("url", .str tpp.url),
      ("credentialsRef", Json.ofMembers [("name", .str tpp.credentials)])] ++
    (if tpp.caBundle = [] then [] else [("caBundle", .str (Base64.encode tpp.caBundle))]) ++
    (match tpp.caBundleRef with
      | some ref => [("caBundleSecretRef", ref.toJson)]
      | none => []))

/-- The description of the cloud service. -/
def CloudSpec.toJson (cloud : CloudSpec) : Json :=
  Json.ofMembers (textMember "url" cloud.url ++ [("apiTokenSecretRef", cloud.token.toJson)])

/-- The description of a Venafi backend. -/
def VenafiSpec.toJson (venafi : VenafiSpec) : Json :=
  Json.ofMembers (
    [("zone", .str venafi.zone)] ++
    (match venafi.tpp with
      | some tpp => [("tpp", tpp.toJson)]
      | none => []) ++
    (match venafi.cloud with
      | some cloud => [("cloud", cloud.toJson)]
      | none => []))

/-- The manifest of an issuer. -/
def Issuer.toJson (issuer : Issuer) : Json :=
  Json.ofMembers (
    [("apiVersion", .str "cert-manager.io/v1"), ("kind", .str issuer.kind.name),
      ("metadata", Json.ofMembers (
        [("name", .str issuer.name)] ++ textMember "namespace" issuer.ns ++
        (if issuer.generation = 0 then [] else [("generation", .int issuer.generation)])))] ++
    (match issuer.venafi with
      | some venafi => [("spec", Json.ofMembers [("venafi", venafi.toJson)])]
      | none => []) ++
    [("status", Condition.statusToJson issuer.conditions)])

end IssuerReadiness
