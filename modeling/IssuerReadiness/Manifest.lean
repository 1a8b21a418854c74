import IssuerReadiness.Failure
import IssuerReadiness.Json.Library

/-!
# Members of manifests

A manifest is a JSON object whose members must have certain types.  The readers
below take the object, the key and the place of the object in the manifest, and
refuse a member with a message that names both.  An optional member may be absent
or null.

* `jsonOfBytes` --- the value of the text of a manifest.
* `requiredText`, `optionalText`, `optionalInt`, `optionalObject` --- its members.
-/

namespace IssuerReadiness
namespace Manifest

/-- Refuses a manifest. -/
def refuse {α : Type} (message : String) : Except Failure α :=
  .error (.configuration message)

/-- A text that must be there and must not be empty. -/
def requiredText (obj : Json) (key place : String) : Except Failure String :=
  match obj.field key with
  | .str s => if s = "" then refuse (place ++ "." ++ key ++ " is required") else .ok s
  | _ => refuse (place ++ "." ++ key ++ " is required")

/-- A text that is empty if it is not there. -/
def optionalText (obj : Json) (key place : String) : Except Failure String :=
  match obj.field key with
  | .null => .ok ""
  | .str s => .ok s
  | _ => refuse (place ++ "." ++ key ++ " must be a string")

/-- A whole number that is 0 if it is not there.  One that is whole but does not
fit 64 bits with a sign is a failure of its own kind.  The rounded number 2 ^ 63 is taken
for one of these, although the limit is rounded, too, where it is compared with it, so that
what its conversion gives is not defined. -/
def optionalInt (obj : Json) (key place : String) : Except Failure Int :=
  match obj.field key with
  | .null => .ok 0
  | .num n =>
      match n.integral? with
      | some i => if i < Number.signedLimit then .ok i else .error (.numberRange n.isExact)
      | none => refuse (place ++ "." ++ key ++ " must be an integer")
  | _ => refuse (place ++ "." ++ key ++ " must be an integer")

/-- The value of the text of a manifest; `subject` says of what. -/
def jsonOfBytes [Json.Library] (subject : String) (b : Bytes) : Except Failure Json :=
  match Json.read b with
  | .value v _ => .ok v
  | .refused diagnosis => refuse ("invalid " ++ subject ++ " JSON: " ++ diagnosis)
  | .thrown text => .error (.plain text)

/-- An object, or `null` if it is not there. -/
def optionalObject (obj : Json) (key place : String) : Except Failure Json :=
  match obj.field key with
  | .null => .ok .null
  | .obj ms => .ok (.obj ms)
  | _ => refuse (place ++ "." ++ key ++ " must be an object")

end Manifest
end IssuerReadiness
