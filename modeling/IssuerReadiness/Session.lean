import IssuerReadiness.Http
import IssuerReadiness.Log
import IssuerReadiness.Metrics

/-!
# Sessions

A session is what the operations of clients read and change: the moment (the time
and the cancellations), the network, the metrics, the log, and the journal of the
calls that scripted clients answered.  Issuers and recorders are not part of it, so
no client can touch the status of an issuer or record an event.

An `Action` gives a value or a failure and leaves a session behind in either case:
what was sent, logged or counted before a failure stays so.

* `Action` --- the operations.
* `Action.check` --- fails if a context is done.
* `Action.log`, `Action.withinClient`.
-/

namespace IssuerReadiness

/-- A call that a scripted client or builder answered. -/
inductive Call where
  | build (ns clusterNamespace issuer : String) (metered : Bool)
  | ping
  | verify
  deriving DecidableEq, Repr

/-- What the operations of clients read and change. -/
structure Session where
  moment : Moment
  network : Http.Network := {}
  metrics : Metrics := {}
  log : LogBook := {}
  calls : List Call := []
  deriving DecidableEq, Repr

/-- An operation that gives a value or fails. -/
abbrev Action (α : Type) := ExceptT Failure (StateM Session) α

namespace Session

/-- Writes a line. -/
def write (s : Session) (logger : Logger) (level : Level) (text : String) : Session :=
  { s with log := s.log.write logger level text }

/-- Counts one call of an operation, if there is anything to count it in, and tells
of it. -/
def observe (s : Session) (metered : Bool) (logger : Logger) (operation : String)
    (start : Instant) (success : Bool) : Session :=
  let us := (s.moment.now - start).tdiv Moment.microsecond
  let s := if metered then { s with metrics := s.metrics.observe operation us success } else s
  s.write logger .debug
    (operation ++ (if success then " succeeded in " else " failed in ") ++ toString us ++ "us")

end Session

namespace Action

variable {α : Type}

/-- Writes a line. -/
def log (logger : Logger) (level : Level) (text : String) : Action Unit :=
  modify (·.write logger level text)

/-- Fails if a context is done. -/
def check (ctx : Context) : Action Unit := do
  match ctx.failure? (← get).moment with
  | some f => throw f
  | none => return ()

/-- Puts a text before the message of a client failure. -/
def withinClient (context : String) (a : Action α) : Action α :=
  a.adapt (Failure.withinClient context)

end Action

end IssuerReadiness
