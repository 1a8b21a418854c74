import IssuerReadiness.Client.Venafi
import IssuerReadiness.Issuer.Manifest
import IssuerReadiness.Secret.Manifest
import IssuerReadiness.Settings
import IssuerReadiness.Setup

/-!
# The command

The command takes the manifest of an issuer and perhaps one of secrets, sets the
issuer up once, and prints its status, the events and the metrics.  Its exit code
says how it went: 0 if the issuer can be used, 1 if not, 2 if there was nothing to
set up because the arguments or the manifests are wrong.  A failure that nobody takes up
would end the program with the code of an abort; where this could happen, it is said
in the result.

Nothing here does input or output: the environment, the files and the network are
given, and what is to be printed is part of the result.  The lines of the log are part
of the session.  The environment is read before the log is started, so that what is
wrong with it is told by the logger that the program started with.

* `Check.load` --- reads the manifests.
* `Check.setUp` --- puts the parts together and sets the issuer up.
* `Check.run` --- the whole.
-/

namespace IssuerReadiness
namespace Check

/-- What the command leaves. -/
structure Result where
  exitCode : Nat
  /-- What is printed, if anything is. -/
  output : Option Json := none
  /-- What is written to standard error besides the log. -/
  complaint : String := ""
  /-- The failure that ended the program, if one did. -/
  escaped : Option Failure := none

/-- What is left of a program that a failure has ended. -/
def Result.aborted (f : Failure) : Result :=
  { exitCode := 134, escaped := some f }

/-- The name of the program. -/
def programName : String := "certissuer-check"

/-- How the program is called. -/
def usage : String :=
  "Usage: " ++ programName ++ " <issuer.json> [secrets.json]\n"

/-- The content of a file, which must be there. -/
def content (file? : String → Option Bytes) (path : String) : Except Failure Bytes :=
  match file? path with
  | some b => .ok b
  | none => .error (.configuration ("cannot open " ++ path))

/-- The namespace of secrets that state none. -/
def defaultNamespace (issuer : Issuer) (settings : Settings) : String :=
  match issuer.kind with
  | .cluster => settings.clusterNamespace
  | .namespaced => issuer.ns

/-- The manifests that are read: the issuer, and the secrets if there is a file of
them. -/
def load [Json.Library] (file? : String → Option Bytes) (settings : Settings) (issuerPath : String)
    (secretsPath : Option String) : Except Failure (Issuer × Option SecretStore) := do
  let issuer ← Issuer.ofBytes (← content file? issuerPath)
  match secretsPath with
  | none => return (issuer, none)
  | some path =>
      let secrets ← Secret.listOfBytes (defaultNamespace issuer settings) (← content file? path)
      return (issuer, some (SecretStore.addAll {} secrets))

/-- The line that tells why the manifests are refused. -/
def refusal (f : Failure) : String :=
  match f.code? with
  | some code => "Invalid input [" ++ code ++ "]: " ++ f.message
  | none => "Invalid input: " ++ f.cause

/-- What is printed: the status of the issuer, the events and the metrics. -/
def report (issuer : Issuer) (events : List Event) (metrics : Metrics) : Json :=
  Json.ofMembers
    [("status", Condition.statusToJson issuer.conditions),
      ("events", .arr (events.map fun e => .str e.text)), ("metrics", metrics.toJson)]

/-- Writes a line on the root logger. -/
def tell (session : Session) (level : Level) (text : String) : Session :=
  session.write session.log.root level text

/-- The lines that tell of the settings. -/
def introduction (settings : Settings) : List String :=
  [programName ++ " v1.0.0", "Cluster resource namespace: " ++ settings.clusterNamespace,
    "Setup timeout: " ++ toString settings.setupTimeoutSeconds ++ "s, connect timeout: " ++
      toString settings.connectTimeoutSeconds ++ "s"]

/-- Starts the log and tells of the settings; gives back the complaint of a log that
cannot be started. -/
def start (settings : Settings) (fault? : String → Option String) (session : Session) :
    Session × String :=
  let (log, complaint) :=
    session.log.start fault? programName settings.logLevel (settings.logFile != "")
      settings.logFile
  ((introduction settings).foldl (tell · .info ·) { session with log := log }, complaint)

/-- Refuses the manifests for a failure that has a text; no other one is taken up. -/
def refuse (f : Failure) (session : Session) : Result × Session :=
  match f.text? with
  | some _ => ({ exitCode := 2 }, tell session .error (refusal f))
  | none => (.aborted f, session)

variable [Json.Library] [Certificate.Library]

/-- Puts the parts of the setup together, and sets the issuer up once. -/
def setUp (settings : Settings) (issuer : Issuer) (secrets : SecretStore) (session : Session) :
    Except Failure (Setup.Outcome × Session) := do
  let root := session.log.root
  let recorder ← Recorder.create settings.eventCapacity.toNat (root.named "recorder")
  let builder := Venafi.builder settings.userAgent settings.connectTimeoutSeconds
  let (setup, recorder, secrets) ←
    Setup.create "Venafi" (some recorder) (some builder) (some secrets) true (root.named "venafi")
      settings.clusterNamespace
  let (ctx, moment) := session.moment.withTimeout (settings.setupTimeoutSeconds * 1000)
  return setup.run secrets ctx issuer recorder { session with moment := moment }

/-- Sets the issuer up and prints what has become of it. -/
def attempt (settings : Settings) (issuer : Issuer) (secrets : SecretStore) (session : Session) :
    Result × Session :=
  match setUp settings issuer secrets session with
  | .error f => (.aborted f, session)
  | .ok (outcome, session) =>
      let (exitCode, session) := match outcome.verdict with
        | .ok () => (0, session)
        | .error e => (1, tell session .warn ("Setup failed [" ++ e.code ++ "]: " ++ e.message))
      ({ exitCode := exitCode
         output := some (report outcome.issuer outcome.recorder.drain.1 session.metrics) },
        { session with log := session.log.flush })

/-- Reads the manifests and sets the issuer up. -/
def proceed (settings : Settings) (file? : String → Option Bytes) (issuerPath : String)
    (secretsPath : Option String) (session : Session) : Result × Session :=
  match load file? settings issuerPath secretsPath with
  | .error f => refuse f session
  | .ok (issuer, none) => attempt settings issuer {} session
  | .ok (issuer, some secrets) =>
      attempt settings issuer secrets
        (tell session .info ("Loaded " ++ toString secrets.size ++ " secret(s)"))

/-- Runs the command on the manifest of an issuer and perhaps one of secrets. -/
def perform (issuerPath : String) (secretsPath : Option String)
    (setting : String → Option String) (file? : String → Option Bytes)
    (fault? : String → Option String) (session : Session) : Result × Session :=
  let (settings, warnings) := Settings.ofEnvironment setting
  let (session, complaint) :=
    start settings fault? { session with log := session.log.warnAll warnings }
  let (result, session) := proceed settings file? issuerPath secretsPath session
  ({ result with complaint := complaint ++ result.complaint }, session)

/-- Runs the command with its arguments, an environment, files to read, and the reason
why a log file cannot be opened, if there is one. -/
def run (args : List String) (setting : String → Option String) (file? : String → Option Bytes)
    (fault? : String → Option String) (session : Session) : Result × Session :=
  match args with
  | [issuerPath] => perform issuerPath none setting file? fault? session
  | [issuerPath, secretsPath] =>
      perform issuerPath (some secretsPath) setting file? fault? session
  | _ => ({ exitCode := 2, complaint := usage }, session)

end Check
end IssuerReadiness
