import IssuerReadiness.Json.Basic
import IssuerReadiness.Log
import IssuerReadiness.Timestamp

/-!
# Conditions

The status of an issuer is a list of conditions, each a claim of some type that
holds, fails, or is not known, with a reason and a message.  The list is meant to
have one entry per type, but a manifest may bring any list, so nothing here relies
on it.

## Putting a condition in

`Condition.upsert` replaces the first entry of the type in its place and removes
the other entries of that type behind it; a type that has no entry yet goes to the
end.  Entries of other types stay as they are.

An entry remembers since when it has had its status.  The time that the new entry
carries does not count: if the status is the one of the entry it replaces, the old
time is kept, and otherwise, or if there was none, it is the time of the
replacement.

* `Condition.find?` --- the first entry of a type.
* `Condition.upsert` --- what becomes of the list, and what there is to tell.
* `Condition.ready` --- the condition that says whether an issuer can be used.
-/

namespace IssuerReadiness

/-- Whether a condition holds. -/
inductive ConditionStatus where
  | holds | fails | unknown
  deriving DecidableEq, Repr

namespace ConditionStatus

/-- The written form of a status. -/
def name : ConditionStatus → String
  | .holds => "True"
  | .fails => "False"
  | .unknown => "Unknown"

/-- The status with a given written form. -/
def ofName? (s : String) : Option ConditionStatus :=
  if s = "True" then some .holds
  else if s = "False" then some .fails
  else if s = "Unknown" then some .unknown
  else none

@[simp] theorem ofName?_name (s : ConditionStatus) : ofName? s.name = some s := by
  cases s <;> decide

end ConditionStatus

/-- One entry of the status of an issuer. -/
structure Condition where
  type : String
  status : ConditionStatus := .unknown
  reason : String := ""
  message : String := ""
  /-- Since when the status is what it is. -/
  lastTransition : Option Instant := none
  /-- The generation of the issuer that was looked at. -/
  observedGeneration : Int := 0
  deriving DecidableEq, Repr

namespace Condition

/-- The type of the condition that says whether an issuer can be used. -/
def readyType : String := "Ready"

/-- The first entry of a type. -/
def find? (type : String) (cs : List Condition) : Option Condition :=
  cs.find? (·.type == type)

/-- What becomes of a list of conditions when one is put in. -/
structure Upsert where
  conditions : List Condition
  /-- Whether the entry is new or its status has changed. -/
  changed : Bool
  /-- The two statuses of an entry whose status has changed. -/
  transition : Option (ConditionStatus × ConditionStatus) := none
  /-- How many other entries of the type were removed. -/
  duplicates : Nat := 0
  deriving DecidableEq, Repr

/-- Puts a condition in the list at a given time. -/
def upsert (cs : List Condition) (c : Condition) (now : Instant) : Upsert :=
  match cs.dropWhile (·.type != c.type) with
  | [] =>
      { conditions := cs ++ [{ c with lastTransition := some now }], changed := true }
  | old :: after =>
      let moved := old.status != c.status
      let since := if moved then now else old.lastTransition.getD now
      { conditions :=
          cs.takeWhile (·.type != c.type) ++ { c with lastTransition := some since } ::
            after.filter (·.type != c.type)
        changed := moved
        transition := if moved then some (old.status, c.status) else none
        duplicates := after.countP (·.type == c.type) }

/-- The lines that tell of the change to a condition of a type. -/
def Upsert.notes (u : Upsert) (type : String) : List (Level × String) :=
  (match u.transition with
    | some (old, new) =>
        [(.debug, "Condition " ++ type ++ " changed status: " ++ old.name ++ " -> " ++ new.name)]
    | none => []) ++
  (if u.duplicates = 0 then []
    else [(.warn, "Removed " ++ toString u.duplicates ++ " duplicate " ++ type ++ " condition(s)")])

/-- The condition that says whether an issuer can be used. -/
def ready (status : ConditionStatus) (reason message : String) (generation : Int) : Condition :=
  { type := readyType, status := status, reason := reason, message := message,
    observedGeneration := generation }

/-- A condition as part of a manifest; a time or a generation that is not set is
left out. -/
def toJson (c : Condition) : Json :=
  Json.ofMembers (
    [("type", .str c.type), ("status", .str c.status.name), ("reason", .str c.reason),
      ("message", .str c.message)] ++
    (match c.lastTransition with
      | some t => [("lastTransitionTime", .str (Timestamp.format t))]
      | none => []) ++
    (if c.observedGeneration = 0 then [] else [("observedGeneration", .int c.observedGeneration)]))

/-- A list of conditions as the status of a manifest. -/
def statusToJson (cs : List Condition) : Json :=
  Json.ofMembers [("conditions", .arr (cs.map toJson))]

end Condition

/-- Writes the notes on the root logger. -/
def LogBook.noteAll (book : LogBook) (notes : List (Level × String)) : LogBook :=
  notes.foldl (fun b n => b.write b.root n.1 n.2) book

end IssuerReadiness
