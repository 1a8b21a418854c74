import IssuerReadiness.Failure
import IssuerReadiness.Issuer

/-!
# Events

An event tells that something happened to an issuer.  A recorder keeps events in
the order in which they come until they are taken out all together.  It keeps at
most as many as its capacity: an event that comes when it is full is lost, but
counted.

* `Recorder.create` --- an empty recorder; one without any capacity is refused.
* `Recorder.record` --- keeps or counts one event.
* `Recorder.drain` --- takes out all events.
-/

namespace IssuerReadiness

/-- Whether an event tells of trouble. -/
inductive EventType where
  | normal | warning
  deriving DecidableEq, Repr

/-- The written form of a type. -/
def EventType.name : EventType → String
  | .normal => "Normal"
  | .warning => "Warning"

/-- Something that happened to an issuer. -/
structure Event where
  type : EventType
  reason : String
  message : String
  kind : IssuerKind
  ns : String
  name : String
  time : Instant
  deriving DecidableEq, Repr

namespace Event

/-- The reason of the event that an issuer can be used. -/
def readyReason : String := "Ready"

/-- An event of an issuer. -/
def of (issuer : Issuer) (type : EventType) (reason message : String) (time : Instant) : Event :=
  { type := type, reason := reason, message := message, kind := issuer.kind, ns := issuer.ns,
    name := issuer.name, time := time }

/-- The event in one line. -/
def text (e : Event) : String :=
  e.type.name ++ " " ++ e.reason ++ " " ++ e.message

/-- The level of the line that tells of an event. -/
def level (e : Event) : Level :=
  match e.type with
  | .normal => .info
  | .warning => .warn

end Event

/-- Keeps events up to a capacity. -/
structure Recorder where
  capacity : Nat
  logger : Logger := {}
  events : List Event := []
  /-- How many events were lost. -/
  dropped : Nat := 0
  deriving DecidableEq, Repr

namespace Recorder

/-- A recorder without events. -/
def create (capacity : Nat) (logger : Logger) : Except Failure Recorder :=
  if capacity = 0 then .error (.invalidArgument "BufferedEventRecorder: capacity must be positive")
  else .ok { capacity := capacity, logger := logger }

/-- Whether the next event will be lost. -/
def isFull (r : Recorder) : Bool :=
  r.capacity ≤ r.events.length

/-- Keeps an event, or counts it as lost. -/
def record (r : Recorder) (e : Event) : Recorder :=
  if r.isFull then { r with dropped := r.dropped + 1 }
  else { r with events := r.events ++ [e] }

/-- The lines that tell of an event as it is recorded. -/
def notes (r : Recorder) (e : Event) : List (Level × String) :=
  (e.level, "Event " ++ e.kind.name ++ "/" ++ e.name ++ ": " ++ e.text) ::
    (if r.isFull then
      [(.warn, "Event buffer full (" ++ toString r.capacity ++ "), dropped event " ++ e.reason ++
        " for " ++ e.name)]
    else [])

/-- Takes out all events. -/
def drain (r : Recorder) : List Event × Recorder :=
  (r.events, { r with events := [] })

end Recorder

/-- Writes the lines that tell of an event as it is recorded. -/
def LogBook.noteEvent (book : LogBook) (r : Recorder) (e : Event) : LogBook :=
  (r.notes e).foldl (fun b n => b.write r.logger n.1 n.2) book

end IssuerReadiness
