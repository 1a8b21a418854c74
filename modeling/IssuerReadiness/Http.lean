import IssuerReadiness.Bytes
import IssuerReadiness.Context
import IssuerReadiness.Keyed

/-!
# Requests and transfers

A client sends requests and gets answers through a network.  What the network does
with each request is not in the client's hands, so it is given beforehand: a list
of transfers, used up in order.  A transfer takes time, may see the context of the
request canceled, gives the client the chance to stop, and ends in one of four ways.

The network also keeps the requests that were sent, in order, with everything that
goes over the wire.

* `Request`, `Transfer`, `Network` --- the data.
* `Transfer.run` --- what one transfer does to the moment, and how it ends.
* `statusText` --- an HTTP status for people.
-/

namespace IssuerReadiness
namespace Http

/-- A body that is posted: a JSON object with a string under each of some keys.  What the
strings are made of need not be UTF-8. -/
abbrev Posted := Keyed Bytes

/-- A request as it is sent. -/
structure Request where
  method : String
  url : String
  userAgent : String
  /-- The time that the connection may take, in seconds. -/
  connectTimeout : Int
  /-- The time that the whole transfer may take, in milliseconds. -/
  timeoutMs : Option Int
  headers : List Bytes
  body : Option Posted
  /-- The certificates to trust; those of the system if empty. -/
  caBundle : Bytes
  deriving DecidableEq, Repr

/-- An answer. -/
structure Response where
  status : Int
  body : Bytes
  deriving DecidableEq, Repr

/-- How a transfer ends. -/
inductive Ending where
  /-- The client stopped it. -/
  | aborted
  /-- It took longer than it may. -/
  | timedOut
  /-- It failed otherwise. -/
  | failed (text : String)
  /-- An answer came, its body in pieces. -/
  | answered (status : Int) (chunks : List Bytes)
  deriving DecidableEq, Repr

/-- What happens to one request. -/
structure Transfer where
  /-- It cannot even be prepared. -/
  initFails : Bool := false
  /-- Its headers cannot be put together. -/
  headerFails : Bool := false
  /-- The microseconds it takes. -/
  advance : Int := 0
  /-- The microseconds by which the date and time are set forward meanwhile. -/
  wallStep : Int := 0
  /-- The context of the request is canceled meanwhile. -/
  cancels : Bool := false
  /-- The client is asked whether to go on. -/
  asks : Bool := true
  ending : Ending := .answered 200 []
  deriving DecidableEq, Repr

/-- The transfers to come and the requests sent so far. -/
structure Network where
  script : List Transfer := []
  requests : List Request := []
  /-- How a transfer fails when none is left. -/
  exhausted : String := "no scripted response"
  deriving DecidableEq, Repr

/-- What the library says of a transfer that took too long. -/
def timeoutText : String := "Timeout was reached"

/-- Lets a transfer take its time and happen to the context. -/
def Transfer.pass (t : Transfer) (ctx : Context) (m : Moment) : Moment :=
  let m := (m.advance t.advance).setWall t.wallStep
  if t.cancels then m.cancel ctx else m

/-- How a transfer ends at the moment it leaves: the client stops it if it is asked
and its context is done. -/
def Transfer.endingAt (t : Transfer) (ctx : Context) (m : Moment) : Ending :=
  if t.asks && ctx.isDone m then .aborted else t.ending

/-- What a transfer does to the moment, and how it ends. -/
def Transfer.run (t : Transfer) (ctx : Context) (m : Moment) : Ending × Moment :=
  let m := t.pass ctx m
  (t.endingAt ctx m, m)

/-- The words for an HTTP status; empty for one that has none here. -/
def reasonPhrase (status : Int) : String :=
  if status = 200 then "OK"
  else if status = 201 then "Created"
  else if status = 204 then "No Content"
  else if status = 301 then "Moved Permanently"
  else if status = 302 then "Found"
  else if status = 400 then "Bad Request"
  else if status = 401 then "Unauthorized"
  else if status = 403 then "Forbidden"
  else if status = 404 then "Not Found"
  else if status = 405 then "Method Not Allowed"
  else if status = 408 then "Request Timeout"
  else if status = 429 then "Too Many Requests"
  else if status = 500 then "Internal Server Error"
  else if status = 502 then "Bad Gateway"
  else if status = 503 then "Service Unavailable"
  else if status = 504 then "Gateway Timeout"
  else ""

/-- An HTTP status with its words. -/
def statusText (status : Int) : String :=
  let phrase := reasonPhrase status
  if phrase = "" then toString status else toString status ++ " " ++ phrase

end Http
end IssuerReadiness
