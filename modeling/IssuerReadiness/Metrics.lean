import IssuerReadiness.Json.Basic

/-!
# Metrics

For each operation on a backend, how often it was called, how often it failed, and
how long the calls took.  An operation that was never called reads as all zeros and
is not listed.

* `Metrics.observe` --- counts one call.
* `Metrics.get` --- the statistics of an operation.
* `get_observe` --- the view after one observation.
-/

namespace IssuerReadiness

/-- The calls of one operation; times are in microseconds. -/
structure OperationStats where
  calls : Nat := 0
  failures : Nat := 0
  totalUs : Int := 0
  lastUs : Int := 0
  deriving DecidableEq, Repr, Inhabited

/-- The statistics after one more call. -/
def OperationStats.count (stats : OperationStats) (us : Int) (success : Bool) : OperationStats :=
  { calls := stats.calls + 1
    failures := if success then stats.failures else stats.failures + 1
    totalUs := stats.totalUs + us
    lastUs := us }

/-- The statistics as a result. -/
def OperationStats.toJson (stats : OperationStats) : Json :=
  Json.ofMembers
    [("calls", .int stats.calls), ("failures", .int stats.failures),
      ("totalLatencyUs", .int stats.totalUs), ("lastLatencyUs", .int stats.lastUs)]

/-- The statistics of all operations. -/
structure Metrics where
  operations : Keyed OperationStats := []
  deriving DecidableEq, Repr

namespace Metrics

/-- The statistics of an operation. -/
def get (m : Metrics) (operation : String) : OperationStats :=
  (Keyed.find? operation m.operations).getD {}

/-- Counts one call of an operation. -/
def observe (m : Metrics) (operation : String) (us : Int) (success : Bool) : Metrics :=
  ⟨Keyed.insert operation ((m.get operation).count us success) m.operations⟩

/-- The statistics of all operations as a result. -/
def toJson (m : Metrics) : Json :=
  Json.ofMembers (m.operations.map fun p => (p.1, p.2.toJson))

theorem get_observe (m : Metrics) (operation q : String) (us : Int) (success : Bool) :
    (m.observe operation us success).get q =
      if operation = q then (m.get q).count us success else m.get q := by
  unfold observe get
  rw [Keyed.find?_insert]
  by_cases h : operation = q
  · subst h; simp
  · simp [h]

end Metrics

end IssuerReadiness
