import IssuerReadiness.Json.Number
import IssuerReadiness.Keyed

/-!
# JSON values

Manifests, answers of the backend and results are JSON values.  An object keeps
its members in the order of their keys and one member for each key, so a reader
that reports the first member at fault reports the one with the least key.

A member that is missing reads as `null` (`Json.field`): an optional member of a
manifest is absent or null, and both mean the same.  `Json.hasField` is the
question that tells them apart.
-/

namespace IssuerReadiness

/-- A JSON value. -/
inductive Json where
  | null
  | bool (b : Bool)
  | num (n : Number)
  | str (s : String)
  | arr (items : List Json)
  | obj (members : List (String × Json))
  deriving Repr, Inhabited

namespace Json

/-- An object with the given members; of two with the same key the later one is
kept. -/
def ofMembers (members : List (String × Json)) : Json :=
  .obj (Keyed.ofList members)

/-- A whole number. -/
def int (n : Int) : Json := .num (.exact n)

/-- The members of an object in the order of their keys; none for another value. -/
def members : Json → Keyed Json
  | .obj ms => ms
  | _ => []

/-- The items of an array; none for another value. -/
def items : Json → List Json
  | .arr vs => vs
  | _ => []

/-- The member of an object under a key, or `null`. -/
def field (v : Json) (key : String) : Json :=
  (Keyed.find? key v.members).getD .null

/-- Whether an object has a member under a key, be it `null`. -/
def hasField (v : Json) (key : String) : Bool :=
  (Keyed.find? key v.members).isSome

/-- The object with one more member, or with another value under its key; a value
that is no object becomes one. -/
def setField (v : Json) (key : String) (value : Json) : Json :=
  .obj (Keyed.insert key value v.members)

/-- Whether the value is `null`. -/
def isNull : Json → Bool
  | .null => true
  | _ => false

/-- Whether the value is an object. -/
def isObject : Json → Bool
  | .obj _ => true
  | _ => false

/-- Whether the value is an array. -/
def isArray : Json → Bool
  | .arr _ => true
  | _ => false

/-- The text that a value is. -/
def text? : Json → Option String
  | .str s => some s
  | _ => none

@[simp] theorem field_null (key : String) : field .null key = .null := rfl

@[simp] theorem text?_str (s : String) : text? (.str s) = some s := rfl

theorem field_setField (v value : Json) (key q : String) :
    (v.setField key value).field q = if key = q then value else v.field q := by
  unfold setField field members
  rw [Keyed.find?_insert]
  split <;> rfl

theorem hasField_setField (v value : Json) (key q : String) :
    (v.setField key value).hasField q = (key == q || v.hasField q) := by
  unfold setField hasField members
  rw [Keyed.find?_insert]
  by_cases h : key = q <;> simp [h]

end Json

end IssuerReadiness
