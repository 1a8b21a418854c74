import IssuerReadiness.Json.Parser
import IssuerReadiness.Proofs.Client.Exchange
import IssuerReadiness.Proofs.Redaction
import IssuerReadiness.Proofs.Setup.Stages

/-!
# Credentials stay in their requests

Two connections that are the same but for the values of their credentials lead to the
same course of events.  What a client decides, it decides on which credentials are
there, never on what they are; and what it tells --- in the log, in failures, through
the metrics --- it tells of methods, URLs, statuses and times.  So the two setups
cannot be told apart, except by the header values and the bodies of the requests that
they send.

The proof follows the stack from the bottom: what a query asks for is the same but for
what is redacted, so one exchange is, so the operations of the client are, timed or
not, and so is the setup that uses them.  Every failure is covered on the way, since
operations that are `Alike` fail alike.

* `Connection.SameButCredentials`: the two connections.
* `Venafi.alike_exchange`: one request and its answer.
* `Venafi.alike_ping`, `Venafi.alike_verify`: the operations of a client.
* `Setup.observed_run_returning`: the whole setup.
-/

namespace IssuerReadiness

open Http

/-- Two connections that are the same but for the values of user name, password, access
token and key, and that have the same of these four. -/
structure Connection.SameButCredentials (k k' : Connection) : Prop where
  connector : k.connector = k'.connector
  baseUrl : k.baseUrl = k'.baseUrl
  zone : k.zone = k'.zone
  caBundle : k.caBundle = k'.caBundle
  userAgent : k.userAgent = k'.userAgent
  username : k.username = [] ↔ k'.username = []
  password : k.password = [] ↔ k'.password = []
  accessToken : k.accessToken = [] ↔ k'.accessToken = []
  apiKey : k.apiKey = [] ↔ k'.apiKey = []

namespace Venafi

/-! ## Queries -/

/-- A query without the values of its headers, and without the user name and the
password of its body. -/
def Query.redacted (q : Query) : Query :=
  { q with
    headers := q.headers.map fun h => headerName h.beforeNul
    body := q.body.map Posted.redacted }

/-- The name of a header that is written with a label before its value. -/
theorem headerName_label (name label : String) {header : String}
    (h : header = name ++ (":" ++ label))
    (hname : ∀ b ∈ Bytes.ofString name, b ≠ 0 ∧ b ≠ 0x3A) (value : Bytes) :
    headerName (Bytes.beforeNul (Bytes.ofString header ++ value)) = Bytes.ofString name := by
  have hcolon : Bytes.ofString ":" = [0x3A] := by decide
  rw [h, Bytes.ofString_append, Bytes.ofString_append, hcolon, List.append_assoc,
    List.append_assoc, List.singleton_append]
  exact headerName_beforeNul hname _

theorem redacted_tokenQuery (token token' : Bytes) :
    (tokenQuery token).redacted = (tokenQuery token').redacted := by
  have hheader : ∀ value, headerName (Bytes.beforeNul
      (Bytes.ofString "Authorization: Bearer " ++ value)) = Bytes.ofString "Authorization" :=
    headerName_label "Authorization" " Bearer " rfl (by decide +kernel)
  simp only [Query.redacted, tokenQuery, List.map_cons, hheader]

theorem redacted_apiKeyQuery (apiKey apiKey' : Bytes) :
    (apiKeyQuery apiKey).redacted = (apiKeyQuery apiKey').redacted := by
  have hheader : ∀ value, headerName (Bytes.beforeNul
      (Bytes.ofString "tppl-api-key: " ++ value)) = Bytes.ofString "tppl-api-key" :=
    headerName_label "tppl-api-key" " " rfl (by decide +kernel)
  simp only [Query.redacted, apiKeyQuery, List.map_cons, hheader]

theorem redacted_passwordQuery (username password username' password' : Bytes) :
    (passwordQuery username password).redacted = (passwordQuery username' password').redacted := by
  simp only [Query.redacted, passwordQuery, Option.map_some, redacted_ofList]
  rfl

theorem redacted_query (k k' : Connection) (way : Way) :
    (way.query k).redacted = (way.query k').redacted := by
  cases way with
  | token => exact redacted_tokenQuery ..
  | password => exact redacted_passwordQuery ..
  | apiKey => exact redacted_apiKeyQuery ..

variable {k k' : Connection} {q q' : Query} {connectTimeout : Int} {logger : Logger}

theorem url_eq (hk : k.SameButCredentials k') (hq : q.redacted = q'.redacted) :
    Setting.url ⟨k, connectTimeout, logger⟩ q = Setting.url ⟨k', connectTimeout, logger⟩ q' := by
  obtain ⟨-, hpath, -, -⟩ := Query.mk.inj hq
  rw [Setting.url, Setting.url, hk.baseUrl, hpath]

/-- The requests of queries that are the same but for what is redacted are so, too. -/
theorem redacted_request (hk : k.SameButCredentials k') (hq : q.redacted = q'.redacted)
    (remaining : Option Int) :
    (Setting.request ⟨k, connectTimeout, logger⟩ q remaining).redacted =
      (Setting.request ⟨k', connectTimeout, logger⟩ q' remaining).redacted := by
  obtain ⟨hmethod, -, hheaders, hbody⟩ := Query.mk.inj hq
  simp only [Setting.request, Request.redacted, List.map_map, url_eq hk hq, hk.userAgent,
    hk.caBundle, hmethod, hbody]
  congr 1

/-! ## Exchanges -/

theorem alike_nextTransfer : Alike nextTransfer nextTransfer := by
  refine Alike.of_redacts fun σ => ?_
  obtain ⟨moment, ⟨script, requests, exhausted⟩, metrics, log, calls⟩ := σ
  cases script <;> rfl

theorem alike_send (hk : k.SameButCredentials k') (hq : q.redacted = q'.redacted) (ctx : Context)
    (t : Option Transfer) :
    Alike (send ⟨k, connectTimeout, logger⟩ q ctx t)
      (send ⟨k', connectTimeout, logger⟩ q' ctx t) := by
  intro σ τ hστ
  obtain ⟨hmethod, -, -, -⟩ := Query.mk.inj hq
  have hurl : Setting.url ⟨k, connectTimeout, logger⟩ q =
      Setting.url ⟨k', connectTimeout, logger⟩ q' := url_eq hk hq
  -- the two sessions are the same but for the requests that were sent before
  obtain ⟨moment, ⟨script, requests, exhausted⟩, metrics, log, calls⟩ := σ
  obtain ⟨moment', ⟨script', requests', exhausted'⟩, metrics', log', calls'⟩ := τ
  obtain ⟨hmoment, hnetwork, hmetrics, hlog, hcalls⟩ := Session.mk.inj hστ
  obtain ⟨hscript, hrequests, hexhausted⟩ := Network.mk.inj hnetwork
  dsimp only at hmoment hscript hrequests hexhausted hmetrics hlog hcalls
  subst hmoment hscript hexhausted hmetrics hlog hcalls
  have hsent : (requests ++ [Setting.request ⟨k, connectTimeout, logger⟩ q
        (ctx.remaining? moment)]).map Request.redacted =
      (requests' ++ [Setting.request ⟨k', connectTimeout, logger⟩ q'
        (ctx.remaining? moment)]).map Request.redacted := by
    rw [List.map_append, List.map_append, hrequests, List.map_singleton, List.map_singleton,
      redacted_request hk hq]
  cases t with
  | none => simp only [send, observed, Session.write, Session.redacted, hurl, hmethod, hsent]
  | some t => simp only [send, observed, Session.write, Session.redacted, hurl, hmethod, hsent]

theorem judge_eq (hk : k.SameButCredentials k') (hq : q.redacted = q'.redacted) (ctx : Context)
    (m : Moment) (ending : Ending) :
    judge ⟨k, connectTimeout, logger⟩ q ctx m ending =
      judge ⟨k', connectTimeout, logger⟩ q' ctx m ending := by
  obtain ⟨hmethod, -, -, -⟩ := Query.mk.inj hq
  have hunanswered : ∀ text, judge.unanswered ⟨k, connectTimeout, logger⟩ q text =
      judge.unanswered ⟨k', connectTimeout, logger⟩ q' text := by
    intro text
    rw [judge.unanswered, judge.unanswered, url_eq hk hq, hmethod]
  cases ending <;> simp only [judge, hunanswered]

/-- **One exchange shows nothing of what is redacted**, neither in its answer nor in the
ways in which it fails. -/
theorem alike_exchange (hk : k.SameButCredentials k') (hq : q.redacted = q'.redacted)
    (ctx : Context) :
    Alike (exchange ⟨k, connectTimeout, logger⟩ ctx q)
      (exchange ⟨k', connectTimeout, logger⟩ ctx q') := by
  obtain ⟨hmethod, -, hheaders, -⟩ := Query.mk.inj hq
  have hempty : q.headers.isEmpty = q'.headers.isEmpty := by
    rw [← List.isEmpty_map, hheaders, List.isEmpty_map]
  refine (Alike.check ctx).bind fun _ => alike_nextTransfer.bind fun t => ?_
  rw [hempty]
  split
  · exact Alike.throw _
  · split
    · exact Alike.throw _
    · refine (alike_send hk hq ctx t).bind fun ending => Alike.moment fun σ τ hmoment => ?_
      rw [hmoment, judge_eq hk hq]
      cases judge ⟨k', connectTimeout, logger⟩ q' ctx τ.moment ending with
      | error f => exact Alike.throw f
      | ok response =>
        dsimp only
        rw [url_eq hk hq, hmethod]
        exact (Alike.log _ _ _).bind fun _ => Alike.pure response

/-! ## Operations -/

theorem alike_ping (hk : k.SameButCredentials k') (ctx : Context) :
    Alike (ping ⟨k, connectTimeout, logger⟩ ctx) (ping ⟨k', connectTimeout, logger⟩ ctx) := by
  unfold ping
  dsimp only
  rw [hk.connector]
  refine (alike_exchange hk rfl ctx).bind fun response => ?_
  split
  · exact Alike.pure ()
  · exact Alike.throw _

theorem alike_authenticate (hk : k.SameButCredentials k') (hq : q.redacted = q'.redacted)
    (ctx : Context) :
    Alike (authenticate ⟨k, connectTimeout, logger⟩ ctx q)
      (authenticate ⟨k', connectTimeout, logger⟩ ctx q') := by
  refine (alike_exchange hk hq ctx).bind fun response => ?_
  cases requireOk response with
  | error f => exact Alike.throw f
  | ok _ => exact Alike.pure response

/-- Which of its credentials a client uses depends on which there are. -/
theorem Chosen.of_sameButCredentials {way : Way} (h : Chosen k way)
    (hk : k.SameButCredentials k') : Chosen k' way := by
  cases h with
  | token service given => exact .token (hk.connector ▸ service) (mt hk.accessToken.2 given)
  | password service tokenless named given =>
    exact .password (hk.connector ▸ service) (hk.accessToken.1 tokenless)
      (mt hk.username.2 named) (mt hk.password.2 given)
  | apiKey service => exact .apiKey (hk.connector ▸ service)

theorem Unset.of_sameButCredentials (h : Unset k) (hk : k.SameButCredentials k') : Unset k' where
  service := hk.connector ▸ h.service
  tokenless := hk.accessToken.1 h.tokenless
  incomplete := h.incomplete.imp hk.username.1 hk.password.1

theorem alike_verify [Json.Library] (hk : k.SameButCredentials k') (ctx : Context) :
    Alike (verify ⟨k, connectTimeout, logger⟩ ctx) (verify ⟨k', connectTimeout, logger⟩ ctx) := by
  let c : Setting := ⟨k, connectTimeout, logger⟩
  let c' : Setting := ⟨k', connectTimeout, logger⟩
  show Alike (verify c ctx) (verify c' ctx)
  rcases unset_or_chosen k with h | ⟨way, h⟩
  · have h' : Unset c'.connection := h.of_sameButCredentials hk
    have h : Unset c.connection := h
    rw [verify_of_unset h, verify_of_unset h']
    exact Alike.throw _
  · have h' : Chosen c'.connection way := h.of_sameButCredentials hk
    have h : Chosen c.connection way := h
    rw [verify_of_chosen h, verify_of_chosen h']
    exact ((alike_authenticate hk (redacted_query k k' way) ctx).bind fun _ =>
      Alike.ofExcept _).withinClient _

/-- A builder that does anything it likes and then returns the instrumented client of
one connection. -/
def returning [Json.Library] (before : BuildRequest → Action Unit) (connectTimeout : Int)
    (k : Connection) : Builder := fun req => do
  before req
  return some ((client ⟨k, connectTimeout, req.logger⟩).instrument req.metered req.logger)

end Venafi

/-! ## Setups -/

namespace Setup

variable {s : Setup} {ctx : Context} {issuer : Issuer} {recorder : Recorder}

theorem alike_fail (stage : Stage) (cause : Failure) :
    Alike (s.fail issuer recorder stage cause) (s.fail issuer recorder stage cause) :=
  Alike.of_redacts fun _ => rfl

theorem alike_succeed : Alike (s.succeed issuer recorder) (s.succeed issuer recorder) :=
  Alike.of_redacts fun _ => rfl

theorem alike_guarded {operation operation' : Context → Action Unit}
    (h : Alike (operation ctx) (operation' ctx)) :
    Alike (guarded ctx operation) (guarded ctx operation') :=
  (Alike.check ctx).bind fun _ => h

/-- What comes before the client is built does not depend on the connection. -/
theorem build_returning [Json.Library] (s : Setup) (before : BuildRequest → Action Unit)
    (connectTimeout : Int) (k : Connection) (secrets : SecretStore) (ctx : Context)
    (issuer : Issuer) :
    ({ s with builder := Venafi.returning before connectTimeout k } : Setup).build secrets ctx
        issuer =
      ((Action.check ctx >>= fun _ => before (s.request secrets issuer)) >>= fun _ =>
        pure ((Venafi.client ⟨k, connectTimeout, s.logger⟩).instrument s.metered s.logger)) := by
  unfold build Venafi.returning
  simp only [bind_assoc, pure_bind]
  rfl

/-! Clients that are alike. -/

variable {client client' : Client} {operation operation' : Context → Action Unit}

theorem alike_verify (hclient : client.verify? = some operation)
    (hclient' : client'.verify? = some operation') (h : Alike (operation ctx) (operation' ctx)) :
    Alike (s.verify ctx issuer recorder client) (s.verify ctx issuer recorder client') := by
  rw [verify_eq hclient, verify_eq hclient']
  exact (alike_guarded h).onResult (fun _ => alike_fail _ _) fun _ => alike_succeed.afterWrite

theorem alike_ping (hping : Alike (client.ping ctx) (client'.ping ctx))
    (hclient : client.verify? = some operation) (hclient' : client'.verify? = some operation')
    (h : Alike (operation ctx) (operation' ctx)) :
    Alike (s.ping ctx issuer recorder client) (s.ping ctx issuer recorder client') := by
  rw [ping_eq, ping_eq]
  exact (alike_guarded hping).onResult (fun _ => alike_fail _ _) fun _ =>
    (alike_verify hclient hclient' h).afterWrite

/-- **Credentials show nowhere but in their requests.**  Take two connections that are
the same but for the values of their credentials, and set an issuer up with the
instrumented client of the one or of the other.  Whatever the builder does before, and
whatever the context, the issuer, the recorder and the session are, with all that the
network is going to do: the verdict is the same, with stage, message and cause, and so
are the conditions, the events, the metrics, the log and the clock.  As many requests
are sent, and they differ in nothing but the values of headers and the user name and
the password in a body. -/
theorem observed_run_returning [Json.Library] {k k' : Connection} (hk : k.SameButCredentials k')
    (s : Setup) (before : BuildRequest → Action Unit) (connectTimeout : Int) (secrets : SecretStore)
    (ctx : Context) (issuer : Issuer) (recorder : Recorder) (session : Session) :
    observed (({ s with builder := Venafi.returning before connectTimeout k } : Setup).run secrets
        ctx issuer recorder session) =
      observed (({ s with builder := Venafi.returning before connectTimeout k' } : Setup).run
        secrets ctx issuer recorder session) := by
  rw [run_eq, run_eq, build_returning, build_returning, Action.onResult_bind_pure,
    Action.onResult_bind_pure]
  simp only [opened_withBuilder, built_withBuilder, fail_withBuilder, ping_withBuilder]
  -- until the client is there the two runs are one and the same
  rcases hbuild : (Action.check ctx >>= fun _ => before (s.request secrets issuer))
    (s.opened issuer session) with ⟨e | x, τ⟩
  · rw [Action.onResult_of_error hbuild, Action.onResult_of_error hbuild]
  · rw [Action.onResult_of_ok hbuild, Action.onResult_of_ok hbuild]
    have hping : Alike (Venafi.ping ⟨k, connectTimeout, s.logger⟩ ctx)
        (Venafi.ping ⟨k', connectTimeout, s.logger⟩ ctx) := Venafi.alike_ping hk ctx
    have hverify : Alike (Venafi.verify ⟨k, connectTimeout, s.logger⟩ ctx)
        (Venafi.verify ⟨k', connectTimeout, s.logger⟩ ctx) := Venafi.alike_verify hk ctx
    exact alike_ping (hping.timed _ _ _) rfl rfl (hverify.timed _ _ _) _ _ rfl

/-- The connection to a TPP with an access token. -/
def tokenConnection (token : Bytes) : Connection where
  connector := .tpp
  baseUrl := "https://tpp.example.com/"
  accessToken := token
  userAgent := "certissuer/1.0.0"

/-- A setup that counts and logs everything and has no client yet. -/
def clientless : Setup where
  backend := "Venafi"
  builder := fun _ => pure none
  metered := true
  logger := { level := .trace }
  clusterNamespace := "cert-manager"

/-- A setup whose access token is refused: the ping is answered with status 200, the
check of the token with status 401. -/
def refusedRun (token : Bytes) : Outcome × Session :=
  ({ clientless with
      builder := @Venafi.returning Json.strict (fun _ => pure ()) 10 (tokenConnection token) } :
    Setup).run {} ⟨0, some 5000000000⟩ { kind := .namespaced, name := "issuer", ns := "team-a" }
    { capacity := 1, logger := {} }
    { moment := { now := 0 }
      network := { script := [{ advance := 20 }, { advance := 30, ending := .answered 401 [] }] } }

/-- The requests with the two tokens do differ. -/
theorem observed_refusedRun :
    (tokenConnection [0x61]).SameButCredentials (tokenConnection [0x62]) ∧
      observed (refusedRun [0x61]) = observed (refusedRun [0x62]) ∧
      (refusedRun [0x61]).2.network.requests ≠ (refusedRun [0x62]).2.network.requests := by
  have hk : (tokenConnection [0x61]).SameButCredentials (tokenConnection [0x62]) := by
    constructor <;> decide
  refine ⟨hk, ?_, by decide +kernel⟩
  exact @observed_run_returning Json.strict _ _ hk clientless (fun _ => pure ()) 10 ..

end Setup
end IssuerReadiness
