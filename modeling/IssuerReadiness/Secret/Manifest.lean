import IssuerReadiness.Base64
import IssuerReadiness.Manifest
import IssuerReadiness.Secret

/-!
# Manifests of secrets

A manifest of secrets is one secret, a list of secrets that says so in its kind, or
a bare JSON array.  All three are read in order, and the first fault ends the
reading.

A secret has two sets of values: `data`, in base64, and `stringData`, as plain
text.  Plain text overrides base64 under the same key.  Members are looked at in
the order of their keys, so of two faulty ones the one with the lesser key is
reported.

* `Secret.ofJson` --- one secret.
* `Secret.listOfJson`, `Secret.listOfBytes` --- a manifest.
-/

namespace IssuerReadiness
namespace Secret

open Manifest

/-- The kind that an object states; empty if it states none. -/
def kindOfJson (v : Json) (place : String) : Except Failure String :=
  match v.field "kind" with
  | .null => .ok ""
  | .str s => .ok s
  | _ => refuse (place ++ ".kind must be a string")

/-- Adds the values of `data`. -/
def addEncoded (place : String) (values : Keyed Bytes) :
    List (String × Json) → Except Failure (Keyed Bytes)
  | [] => .ok values
  | (key, .str s) :: rest =>
      match Base64.decode s with
      | some b => addEncoded place (Keyed.insert key b values) rest
      | none => refuse (place ++ ": data." ++ key ++ ": " ++ Base64.illegalText)
  | (key, _) :: _ => refuse (place ++ ": data." ++ key ++ " must be a string")

/-- Adds the values of `stringData`. -/
def addPlain (place : String) (values : Keyed Bytes) :
    List (String × Json) → Except Failure (Keyed Bytes)
  | [] => .ok values
  | (key, .str s) :: rest => addPlain place (Keyed.insert key (Bytes.ofString s) values) rest
  | (key, _) :: _ => refuse (place ++ ": stringData." ++ key ++ " must be a string")

/-- The namespace that the metadata of a secret state. -/
def namespaceOfJson (metadata : Json) (name defaultNamespace : String) : Except Failure String :=
  match metadata.field "namespace" with
  | .null => .ok defaultNamespace
  | .str s => .ok s
  | _ => refuse ("secret " ++ name ++ ": metadata.namespace must be a string")

/-- The name that the metadata of a secret state. -/
def nameOfJson (metadata : Json) : Except Failure String :=
  match metadata.field "name" with
  | .str s => if s = "" then refuse "secret metadata.name is required" else .ok s
  | _ => refuse "secret metadata.name is required"

/-- The secret of a manifest. -/
def ofJson (defaultNamespace : String) (v : Json) : Except Failure Secret := do
  if v.isObject then
    let kind ← kindOfJson v "secret"
    if kind ≠ "" ∧ kind ≠ "Secret" then
      refuse ("expected kind Secret, got " ++ kind)
    else
      let metadata := v.field "metadata"
      let name ← nameOfJson metadata
      let ns ← namespaceOfJson metadata name defaultNamespace
      let place := "secret " ++ name
      let data ← optionalObject v "data" place
      let values ← addEncoded place [] data.members
      let stringData ← optionalObject v "stringData" place
      let values ← addPlain place values stringData.members
      return { name := name, ns := ns, data := values }
  else refuse "secret must be a JSON object"

/-- The items of a list of secrets. -/
def itemsOfJson (v : Json) : Except Failure (List Json) :=
  match v.field "items" with
  | .null => .ok []
  | .arr vs => .ok vs
  | _ => refuse "manifest.items must be an array"

/-- The secrets of a manifest, in order. -/
def listOfJson (defaultNamespace : String) (v : Json) : Except Failure (List Secret) := do
  let kind ← if v.isObject then kindOfJson v "manifest" else .ok ""
  if kind = "List" ∨ kind = "SecretList" then
    (← itemsOfJson v).mapM (ofJson defaultNamespace)
  else
    match v with
    | .arr vs => vs.mapM (ofJson defaultNamespace)
    | v => return [← ofJson defaultNamespace v]

/-- The secrets of the text of a manifest. -/
def listOfBytes [Json.Library] (defaultNamespace : String) (b : Bytes) :
    Except Failure (List Secret) := do
  listOfJson defaultNamespace (← jsonOfBytes "secrets" b)

end Secret
end IssuerReadiness
