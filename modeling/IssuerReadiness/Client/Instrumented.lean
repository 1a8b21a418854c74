import IssuerReadiness.Client

/-!
# Instrumented clients

An instrumented client does what the client inside it does, and tells how long each
call took and whether it succeeded: in the metrics, if there are any, and in the
log.  It can check credentials if and only if the client inside can, and a failure
passes through as it is.

* `Action.timed` --- an operation that is timed.
* `Client.instrument` --- a client whose operations are timed.
-/

namespace IssuerReadiness

/-- Does an operation and counts it, however it ends. -/
def Action.timed (operation : String) (metered : Bool) (logger : Logger) (a : Action Unit) :
    Action Unit := fun s =>
  let (result, s') := a s
  (result, s'.observe metered logger operation s.moment.now result.toBool)

namespace Client

/-- The name under which pings are counted. -/
def pingOperation : String := "ping"

/-- The name under which checks of credentials are counted. -/
def verifyOperation : String := "verifyCredentials"

/-- The client with its ping timed, and no other operation. -/
def timePing (c : Client) (metered : Bool) (logger : Logger) : Client :=
  { ping := fun ctx => (c.ping ctx).timed pingOperation metered logger
    verify? := none }

/-- The client with all its operations timed. -/
def instrument (c : Client) (metered : Bool) (logger : Logger) : Client :=
  { c.timePing metered logger with
    verify? := c.verify?.map fun verify ctx => (verify ctx).timed verifyOperation metered logger }

/-- A client that may be missing, with its ping timed and no other operation. -/
def timePing? (c : Option Client) (metered : Bool) (logger : Logger) : Except Failure Client :=
  match c with
  | some c => .ok (c.timePing metered logger)
  | none => .error (.invalidArgument "InstrumentedClient: client cannot be null")

/-- A client that may be missing, with all its operations timed. -/
def instrument? (c : Option Client) (metered : Bool) (logger : Logger) : Except Failure Client :=
  match c with
  | some c => .ok (c.instrument metered logger)
  | none => .error (.invalidArgument "InstrumentedClient: client cannot be null")

/-- A client that may be missing and that has to check credentials, with all its
operations timed. -/
def instrumentVerifying? (c : Option Client) (metered : Bool) (logger : Logger) :
    Except Failure Client := do
  let timed ← instrument? c metered logger
  if timed.canVerify then return timed
  else .error (.invalidArgument "InstrumentedVerifyingClient: client cannot verify credentials")

@[simp] theorem canVerify_instrument (c : Client) (metered : Bool) (logger : Logger) :
    (c.instrument metered logger).canVerify = c.canVerify := by
  simp [canVerify, instrument]

end Client

end IssuerReadiness
