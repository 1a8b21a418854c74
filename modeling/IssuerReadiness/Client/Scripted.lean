import IssuerReadiness.Client.Instrumented

/-!
# Scripted clients

A scripted client does in each call what an `Act` says: it lets time pass, perhaps
cancels the context, and then returns or fails.  That is all that a client can do as
far as its caller can tell, so scripted clients stand for clients in general.  Every
call is noted in the journal of the session before anything else happens.

* `Act.perform` --- what one call does.
* `ClientScript.client?` --- a client that follows its script.
* `BuildScript.builder` --- a builder that follows its script.
-/

namespace IssuerReadiness

/-- What one call does, in this order. -/
structure Act where
  /-- The microseconds it takes. -/
  advance : Int := 0
  /-- The microseconds by which the date and time are set forward meanwhile. -/
  wallStep : Int := 0
  /-- Whether the context is canceled meanwhile. -/
  cancels : Bool := false
  /-- The failure it ends in, if it fails. -/
  failure : Option Failure := none
  deriving DecidableEq, Repr

/-- Does what an act says. -/
def Act.perform (act : Act) (ctx : Context) : Action Unit := do
  modify fun s =>
    let m := (s.moment.advance act.advance).setWall act.wallStep
    { s with moment := if act.cancels then m.cancel ctx else m }
  match act.failure with
  | some f => throw f
  | none => return ()

/-- Notes a call in the journal. -/
def Action.note (call : Call) : Action Unit :=
  modify fun s => { s with calls := s.calls ++ [call] }

/-- What kind of client a script describes. -/
inductive ClientShape where
  /-- One that can check its credentials. -/
  | verifying
  /-- One that can only be pinged. -/
  | pingOnly
  /-- No client. -/
  | missing
  deriving DecidableEq, Repr

/-- A client, and what its calls do. -/
structure ClientScript where
  shape : ClientShape := .verifying
  ping : Act := {}
  verify : Act := {}
  deriving DecidableEq, Repr

/-- The client that follows a script. -/
def ClientScript.client? (script : ClientScript) : Option Client :=
  let ping := fun ctx => do
    Action.note .ping
    script.ping.perform ctx
  let verify := fun ctx => do
    Action.note .verify
    script.verify.perform ctx
  match script.shape with
  | .verifying => some { ping := ping, verify? := some verify }
  | .pingOnly => some { ping := ping, verify? := none }
  | .missing => none

/-- What a builder does before it gives its client. -/
structure BuildScript where
  build : Act := {}
  client : ClientScript := {}
  /-- Whether the client is instrumented. -/
  instrument : Bool := false
  deriving DecidableEq, Repr

/-- The builder that follows a script; the context is the one that its own act may
cancel. -/
def BuildScript.builder (script : BuildScript) (ctx : Context) : Builder := fun req => do
  Action.note (.build req.ns req.clusterNamespace req.issuer.name req.metered)
  script.build.perform ctx
  if script.instrument then
    match Client.instrument? script.client.client? req.metered req.logger with
    | .ok c => return some c
    | .error f => throw f
  else return script.client.client?

end IssuerReadiness
