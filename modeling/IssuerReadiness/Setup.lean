import IssuerReadiness.Client
import IssuerReadiness.Event

/-!
# Setting up issuers

To set up an issuer is to find out whether it can be used, in three stages: build a
client, ping the backend, and check the credentials, if the client can.  Each stage
starts with a look at the context, and the first stage that fails ends the setup.

The verdict is written in three places that always agree.  On success the Ready
condition holds and one event is recorded; on failure the Ready condition fails with
the message of the setup error, and no event is recorded.

* `Stage`, `SetupError` --- how a setup fails.
* `Setup.build`, `Setup.ping`, `Setup.verify` --- the stages.
* `Setup.run` --- the whole.
-/

namespace IssuerReadiness

/-- The stages of a setup. -/
inductive Stage where
  | build | ping | verify
  deriving DecidableEq, Repr

namespace Stage

/-- The name of a stage in the log. -/
def name : Stage → String
  | .build => "build"
  | .ping => "ping"
  | .verify => "verifyCredentials"

/-- The code of a failure in a stage. -/
def code : Stage → String
  | .build => "ERROR_BUILDING_CLIENT"
  | .ping => "ERROR_PINGING_API"
  | .verify => "ERROR_VERIFYING_CREDENTIALS"

/-- What was tried in a stage. -/
def attempt (backend : String) : Stage → String
  | .build => "error building client: "
  | .ping => "error pinging " ++ backend ++ " API: "
  | .verify => "client.VerifyCredentials: "

end Stage

/-- The failure of a setup: the stage, the whole message, and the text of the failure
behind it. -/
structure SetupError where
  stage : Stage
  message : String
  cause : String
  deriving DecidableEq, Repr

namespace SetupError

/-- The failure of a stage. -/
def of (backend : String) (stage : Stage) (cause : String) : SetupError :=
  { stage := stage
    message := "Failed to setup " ++ backend ++ " issuer: " ++ stage.attempt backend ++ cause
    cause := cause }

/-- The code that programs can test. -/
def code (e : SetupError) : String := e.stage.code

/-- The message as it is passed on where only its text counts. -/
def text (e : SetupError) : String := Text.beforeNul e.message

end SetupError

/-- What sets up the issuers of one backend. -/
structure Setup where
  /-- The name of the backend in messages. -/
  backend : String
  builder : Builder
  /-- Whether the calls of clients are to be counted. -/
  metered : Bool
  logger : Logger
  /-- Where the secrets of cluster issuers are. -/
  clusterNamespace : String

namespace Setup

/-- A setup, of parts that may be missing; a recorder, a builder and the secrets have
to be there. -/
def create (backend : String) (recorder : Option Recorder) (builder : Option Builder)
    (secrets : Option SecretStore) (metered : Bool) (logger : Logger) (clusterNamespace : String) :
    Except Failure (Setup × Recorder × SecretStore) :=
  match recorder, builder, secrets with
  | some recorder, some builder, some secrets =>
      .ok ({ backend := backend, builder := builder, metered := metered, logger := logger,
             clusterNamespace := clusterNamespace }, recorder, secrets)
  | none, _, _ => .error (.invalidArgument "IssuerSetup: recorder cannot be null")
  | some _, none, _ => .error (.invalidArgument "IssuerSetup: client builder cannot be null")
  | some _, some _, none => .error (.invalidArgument "IssuerSetup: secret lister cannot be null")

/-- How a setup ends: the verdict, and what has become of the issuer and the
recorder. -/
structure Outcome where
  verdict : Except SetupError Unit
  issuer : Issuer
  recorder : Recorder

/-! ## Stages -/

/-- What the client of an issuer is built from. -/
def request (s : Setup) (secrets : SecretStore) (issuer : Issuer) : BuildRequest :=
  { ns := issuer.resourceNamespace s.clusterNamespace
    secrets := secrets
    issuer := issuer
    metered := s.metered
    logger := s.logger
    clusterNamespace := s.clusterNamespace }

/-- Builds a client. -/
def build (s : Setup) (secrets : SecretStore) (ctx : Context) (issuer : Issuer) :
    Action Client := do
  Action.check ctx
  match ← s.builder (s.request secrets issuer) with
  | some client => return client
  | none => throw (.ofClient "client builder returned no client")

/-- Starts an operation if the context is not done. -/
def guarded (ctx : Context) (operation : Context → Action Unit) : Action Unit := do
  Action.check ctx
  operation ctx

/-! ## Verdicts -/

/-- Puts the Ready condition in the status of an issuer, with the date and time of the
session, and tells of the change. -/
def writeReady (issuer : Issuer) (status : ConditionStatus) (reason message : String)
    (session : Session) : Issuer × Session :=
  let c := Condition.ready status reason message issuer.generation
  let u := Condition.upsert issuer.conditions c session.moment.wall
  ({ issuer with conditions := u.conditions },
    { session with log := session.log.noteAll (u.notes c.type) })

/-- The reason of a Ready condition that fails. -/
def errorReason : String := "ErrorSetup"

/-- The reason, and the message too, of a Ready condition that holds. -/
def startedText (s : Setup) : String :=
  s.backend ++ " issuer started"

/-- The message of the event that an issuer can be used. -/
def verifiedText (s : Setup) : String :=
  "Verified issuer with " ++ s.backend ++ " server"

/-- Writes that a stage has failed. -/
def fail (s : Setup) (issuer : Issuer) (recorder : Recorder) (stage : Stage) (cause : Failure)
    (session : Session) : Outcome × Session :=
  let e := SetupError.of s.backend stage cause.cause
  let (issuer, session) := writeReady issuer .fails errorReason e.message session
  let session := session.write s.logger .error
    ("Issuer " ++ issuer.ns ++ "/" ++ issuer.name ++ " not ready (" ++ stage.name ++ " stage): " ++
      e.message)
  (⟨.error e, issuer, recorder⟩, session)

/-- Writes that all stages have succeeded. -/
def succeed (s : Setup) (issuer : Issuer) (recorder : Recorder) (session : Session) :
    Outcome × Session :=
  let (issuer, session) := writeReady issuer .holds s.startedText s.startedText session
  let e := Event.of issuer .normal Event.readyReason s.verifiedText session.moment.wall
  let session := { session with log := session.log.noteEvent recorder e }
  let session := session.write s.logger .info
    (s.backend ++ " issuer " ++ issuer.ns ++ "/" ++ issuer.name ++ " is ready")
  (⟨.ok (), issuer, recorder.record e⟩, session)

/-- The last stage: checks the credentials, if the client can. -/
def verify (s : Setup) (ctx : Context) (issuer : Issuer) (recorder : Recorder) (client : Client)
    (session : Session) : Outcome × Session :=
  match client.verify? with
  | none =>
      s.succeed issuer recorder
        (session.write s.logger .debug
          "Client does not support credential verification, skipping")
  | some operation =>
      match guarded ctx operation session with
      | (.error f, session) => s.fail issuer recorder .verify f session
      | (.ok (), session) =>
          s.succeed issuer recorder
            (session.write s.logger .debug ("Credentials verified for issuer " ++ issuer.name))

/-- The stages after the first: pings the backend, and goes on. -/
def ping (s : Setup) (ctx : Context) (issuer : Issuer) (recorder : Recorder) (client : Client)
    (session : Session) : Outcome × Session :=
  match guarded ctx client.ping session with
  | (.error f, session) => s.fail issuer recorder .ping f session
  | (.ok (), session) =>
      s.verify ctx issuer recorder client
        (session.write s.logger .debug
          (s.backend ++ " API reachable for issuer " ++ issuer.name))

/-- Finds out whether an issuer can be used, and writes the verdict. -/
def run (s : Setup) (secrets : SecretStore) (ctx : Context) (issuer : Issuer)
    (recorder : Recorder) (session : Session) : Outcome × Session :=
  let session := session.write s.logger .debug
    ("Setting up " ++ s.backend ++ " issuer " ++ issuer.ns ++ "/" ++ issuer.name ++
      " (secrets namespace " ++ issuer.resourceNamespace s.clusterNamespace ++ ")")
  match s.build secrets ctx issuer session with
  | (.error f, session) => s.fail issuer recorder .build f session
  | (.ok client, session) =>
      s.ping ctx issuer recorder client
        (session.write s.logger .debug ("Client built for issuer " ++ issuer.name))

end Setup

end IssuerReadiness
