import IssuerReadiness.Client.Instrumented
import IssuerReadiness.Connection
import IssuerReadiness.Json.Library

/-!
# Clients of Venafi backends

A client of a Venafi backend sends one request for each operation, waits for the
answer and judges it.

## Requests

Nothing is sent if the context is done.  A request may take as long as the context
has left, one millisecond at least, since none would mean without end.  While it is
under way the client stops it as soon as the context is done.

A request that was stopped, or that took too long when the context was done, fails
as its context does; every other request that gets no answer is a failure of the
client, which names method and URL.

## Judgement

A ping of a TPP succeeds with status 200 only, one of the cloud service with any
status below 500.  Credentials are good if their request is answered with 200; where
user name and password are exchanged for a token, the answer must also be a JSON
object that holds one.

* `Venafi.exchange` --- one request and its answer.
* `Venafi.ping`, `Venafi.verify` --- the operations.
* `Venafi.client`, `Venafi.builder`.
-/

namespace IssuerReadiness
namespace Venafi

open Http

/-- A client of a Venafi backend. -/
structure Setting where
  connection : Connection
  /-- The time that a connection may take, in seconds. -/
  connectTimeout : Int
  logger : Logger
  deriving DecidableEq, Repr

/-- What a request asks for. -/
structure Query where
  method : String
  /-- What is added to the base URL. -/
  path : String
  headers : List Bytes := []
  body : Option Posted := none
  deriving DecidableEq, Repr

/-- The URL of a request. -/
def Setting.url (c : Setting) (q : Query) : String :=
  c.connection.baseUrl ++ q.path

/-- The request as it is sent when `remaining` milliseconds are left.  Whatever is
passed on as zero-terminated text ends at its first NUL. -/
def Setting.request (c : Setting) (q : Query) (remaining : Option Int) : Request :=
  { method := q.method
    url := Text.beforeNul (c.url q)
    userAgent := Text.beforeNul c.connection.userAgent
    connectTimeout := c.connectTimeout
    timeoutMs := remaining.map (max 1 ·)
    headers := q.headers.map Bytes.beforeNul
    body := q.body
    caBundle := c.connection.caBundle }

/-- The failure of a request that was given up because of its context. -/
def contextFailure (ctx : Context) (m : Moment) : Failure :=
  (ctx.failure? m).getD Ended.canceled.failure

/-- What becomes of a request that ended, or the failure that it ended in. -/
def judge (c : Setting) (q : Query) (ctx : Context) (m : Moment) : Ending → Except Failure Response
  | .answered status chunks => .ok ⟨status, chunks.flatten⟩
  | .aborted => .error (contextFailure ctx m)
  | .timedOut =>
      if ctx.isDone m then .error (contextFailure ctx m) else .error (unanswered timeoutText)
  | .failed text => .error (unanswered (Text.beforeNul text))
where
  /-- The failure of a request without answer. -/
  unanswered (text : String) : Failure :=
    .ofClient (q.method ++ " \"" ++ c.url q ++ "\": " ++ text)

/-- Takes the next transfer from the network. -/
def nextTransfer : Action (Option Transfer) := fun s =>
  match s.network.script with
  | [] => (.ok none, s)
  | t :: rest => (.ok (some t), { s with network := { s.network with script := rest } })

/-- Sends a request and lets its transfer run. -/
def send (c : Setting) (q : Query) (ctx : Context) (t : Option Transfer) : Action Ending := fun s =>
  let s := s.write c.logger .debug (q.method ++ " " ++ c.url q)
  let request := c.request q (ctx.remaining? s.moment)
  let network := { s.network with requests := s.network.requests ++ [request] }
  match t with
  | none => (.ok (.failed network.exhausted), { s with network := network })
  | some t =>
      let (ending, m) := t.run ctx s.moment
      (.ok ending, { s with network := network, moment := m })

/-- One request and its answer. -/
def exchange (c : Setting) (ctx : Context) (q : Query) : Action Response := do
  Action.check ctx
  let t ← nextTransfer
  if t.any Transfer.initFails then
    throw (.ofClient "failed to initialize CURL")
  else if t.any Transfer.headerFails && !q.headers.isEmpty then
    throw (.ofClient "failed to build request headers")
  else
    let ending ← send c q ctx t
    match judge c q ctx (← get).moment ending with
    | .error f => throw f
    | .ok response =>
        Action.log c.logger .debug
          (q.method ++ " " ++ c.url q ++ " -> " ++ toString response.status)
        return response

/-! ## Operations -/

/-- The request of a ping. -/
def pingQuery (connector : Connector) : Query :=
  match connector with
  | .tpp => { method := "GET", path := "vedsdk/" }
  | .cloud => { method := "GET", path := "" }

/-- Whether a ping is answered well with a status. -/
def isAlive (connector : Connector) (status : Int) : Bool :=
  match connector with
  | .tpp => status == 200
  | .cloud => status < 500

/-- Asks whether the backend is there. -/
def ping (c : Setting) (ctx : Context) : Action Unit := do
  let response ← exchange c ctx (pingQuery c.connection.connector)
  if isAlive c.connection.connector response.status then return ()
  else throw (.ofClient ("Invalid status: " ++ statusText response.status))

/-- The header that asks for an answer in JSON. -/
def acceptJson : Bytes := Bytes.ofString "Accept: application/json"

/-- The header of a body in JSON. -/
def contentJson : Bytes := Bytes.ofString "Content-Type: application/json"

/-- The request that checks an access token. -/
def tokenQuery (token : Bytes) : Query :=
  { method := "GET", path := "vedauth/authorize/verify",
    headers := [Bytes.ofString "Authorization: Bearer " ++ token, acceptJson] }

/-- The request that exchanges user name and password for a token. -/
def passwordQuery (username password : Bytes) : Query :=
  { method := "POST", path := "vedauth/authorize/oauth", headers := [contentJson, acceptJson],
    body := some (Keyed.ofList
      [("client_id", Bytes.ofString "cert-manager.io"), ("username", username),
        ("password", password), ("scope", Bytes.ofString "certificate:manage")]) }

/-- The request that checks a key of the cloud service. -/
def apiKeyQuery (apiKey : Bytes) : Query :=
  { method := "GET", path := "v1/useraccounts",
    headers := [Bytes.ofString "tppl-api-key: " ++ apiKey, acceptJson] }

/-- Refuses an answer without status 200. -/
def requireOk (response : Response) : Except Failure Unit :=
  if response.status = 200 then .ok () else .error (.ofClient (statusText response.status))

/-- Refuses an answer that is not read as a JSON object with an access token.  What the
reader has to say is passed on if it gives no object, be it a diagnosis or not. -/
def requireToken [Json.Library] (body : Bytes) : Except Failure Unit :=
  match Json.read body with
  | .value v notes =>
      if v.isObject then
        match v.field "access_token" with
        | .str s => if s = "" then noToken else .ok ()
        | _ => noToken
      else .error (.ofClient ("invalid token response: " ++ notes))
  | .refused diagnosis => .error (.ofClient ("invalid token response: " ++ diagnosis))
  | .thrown text => .error (.plain text)
where
  /-- The refusal of an object without token. -/
  noToken : Except Failure Unit := .error (.ofClient "token response has no access_token")

/-- Sends a request and refuses answers without status 200. -/
def authenticate (c : Setting) (ctx : Context) (q : Query) : Action Response := do
  let response ← exchange c ctx q
  match requireOk response with
  | .ok () => return response
  | .error f => throw f

/-- Checks the credentials of a connection to a TPP: the token if there is one, user
name and password otherwise. -/
def verifyTpp [Json.Library] (c : Setting) (ctx : Context) : Action Unit :=
  let k := c.connection
  if k.accessToken ≠ [] then
    Action.withinClient "tppClient.VerifyAccessToken: " do
      let _ ← authenticate c ctx (tokenQuery k.accessToken)
  else if k.username = [] ∨ k.password = [] then
    throw (.ofClient "tppClient.Authenticate: neither access-token nor username/password set")
  else
    Action.withinClient "tppClient.Authenticate: " do
      let response ← authenticate c ctx (passwordQuery k.username k.password)
      match requireToken response.body with
      | .ok () => return ()
      | .error f => throw f

/-- Checks the credentials of a connection to the cloud service. -/
def verifyCloud (c : Setting) (ctx : Context) : Action Unit :=
  Action.withinClient "cloudClient.Authenticate: " do
    let _ ← authenticate c ctx (apiKeyQuery c.connection.apiKey)

/-- Checks the credentials of a connection. -/
def verify [Json.Library] (c : Setting) (ctx : Context) : Action Unit :=
  match c.connection.connector with
  | .tpp => verifyTpp c ctx
  | .cloud => verifyCloud c ctx

/-- The client of a connection. -/
def client [Json.Library] (c : Setting) : Client :=
  { ping := ping c, verify? := some (verify c) }

/-- The name of a service in the log. -/
def serviceName : Connector → String
  | .tpp => "TPP"
  | .cloud => "Cloud"

/-- Builds instrumented clients of Venafi backends. -/
def builder [Json.Library] [Certificate.Library] (userAgent : String) (connectTimeout : Int) :
    Builder := fun req => do
  match Connection.resolve req.issuer req.secrets req.ns userAgent with
  | .error f => throw f
  | .ok connection =>
      Action.log req.logger .debug
        ("Building Venafi " ++ serviceName connection.connector ++ " client for " ++
          connection.baseUrl)
      return some ((client ⟨connection, connectTimeout, req.logger⟩).instrument req.metered
        req.logger)

end Venafi
end IssuerReadiness
