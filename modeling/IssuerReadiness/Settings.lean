import IssuerReadiness.Log
import IssuerReadiness.Text

/-!
# Settings from the environment

The command takes its settings from environment variables.  A variable that is not
set leaves the default; so does one that does not hold what its setting needs, and
then the log says so.

A number is read from the start of its text: blanks, a sign, digits.  What follows
the digits does not count.  A text without digits there, and a number that does not
fit 32 bits, is no number; a number outside the limits of its setting counts as the
limit it passes.

* `Settings.Limits.read` --- the number that a text sets.
* `Settings.ofEnvironment` --- all settings, and the warnings on the way.
-/

namespace IssuerReadiness

/-- What the command can be told through its environment. -/
structure Settings where
  logLevel : String := "info"
  /-- The file that the log goes to as well; none if empty. -/
  logFile : String := ""
  /-- Where the secrets of cluster issuers are kept. -/
  clusterNamespace : String := "cert-manager"
  setupTimeoutSeconds : Int := 30
  connectTimeoutSeconds : Int := 10
  eventCapacity : Int := 100
  userAgent : String := "certissuer/1.0.0"
  deriving DecidableEq, Repr

namespace Settings

/-- The number that a text starts with: blanks, a sign, digits. -/
def leadingInteger? (s : String) : Option Int :=
  let digits (cs : List Char) : Option Int :=
    let ds := cs.takeWhile Text.isDigit
    if ds = [] then none else some (Text.ofDigits ds)
  match s.toList.dropWhile Text.isBlank with
  | '-' :: cs => (digits cs).map (- ·)
  | '+' :: cs => digits cs
  | cs => digits cs

/-- Whether a number fits 32 bits with a sign. -/
def fitsSetting (n : Int) : Bool :=
  -2147483648 ≤ n && n < 2147483648

/-- The default of a numeric setting, and the least and the greatest value. -/
structure Limits where
  default : Int
  least : Int
  greatest : Int
  deriving DecidableEq, Repr

/-- The nearest number within the limits. -/
def Limits.clamp (l : Limits) (n : Int) : Int :=
  if n < l.least then l.least else if l.greatest < n then l.greatest else n

/-- The number that a text sets, and perhaps a warning. -/
def Limits.read (l : Limits) (s : String) : Int × Option String :=
  let s := Text.beforeNul s
  match (leadingInteger? s).filter fitsSetting with
  | some n => (l.clamp n, none)
  | none =>
      (l.default, some ("Invalid integer env value '" ++ s ++ "', using default " ++
        toString l.default))

/-- The time that a whole check may take, in seconds. -/
def setupTimeout : Limits := ⟨30, 1, 600⟩

/-- The time that a connection may take, in seconds. -/
def connectTimeout : Limits := ⟨10, 1, 120⟩

/-- The number of events that are kept. -/
def eventCapacityLimits : Limits := ⟨100, 1, 10000⟩

/-- The number of a setting whose variable may be unset. -/
def Limits.ofVariable (l : Limits) : Option String → Int × Option String
  | some s => l.read s
  | none => (l.default, none)

/-- The variables that are looked at. -/
def variableNames : List String :=
  ["LOG_LEVEL", "LOG_FILE", "CLUSTER_RESOURCE_NAMESPACE", "SETUP_TIMEOUT_SECONDS",
    "HTTP_CONNECT_TIMEOUT_SECONDS", "EVENT_BUFFER_SIZE", "USER_AGENT"]

/-- The settings of an environment, and the warnings in the order in which the
variables are looked at.  A variable holds zero-terminated text. -/
def ofEnvironment (environment : String → Option String) : Settings × List String :=
  let d : Settings := {}
  let setting := fun name => (environment name).map Text.beforeNul
  let (clusterNamespace, w₁) := match setting "CLUSTER_RESOURCE_NAMESPACE" with
    | some "" =>
        (d.clusterNamespace,
          some ("CLUSTER_RESOURCE_NAMESPACE is empty, using default " ++ d.clusterNamespace))
    | some ns => (ns, none)
    | none => (d.clusterNamespace, none)
  let (timeout, w₂) := setupTimeout.ofVariable (setting "SETUP_TIMEOUT_SECONDS")
  let (connect, w₃) := connectTimeout.ofVariable (setting "HTTP_CONNECT_TIMEOUT_SECONDS")
  let (capacity, w₄) := eventCapacityLimits.ofVariable (setting "EVENT_BUFFER_SIZE")
  ({ logLevel := (setting "LOG_LEVEL").getD d.logLevel
     logFile := (setting "LOG_FILE").getD d.logFile
     clusterNamespace := clusterNamespace
     setupTimeoutSeconds := timeout
     connectTimeoutSeconds := connect
     eventCapacity := capacity
     userAgent := (setting "USER_AGENT").getD d.userAgent },
    [w₁, w₂, w₃, w₄].filterMap id)

end Settings

/-- Writes the warnings on the root logger. -/
def LogBook.warnAll (book : LogBook) (warnings : List String) : LogBook :=
  warnings.foldl (fun b w => b.write b.root .warn w) book

end IssuerReadiness
