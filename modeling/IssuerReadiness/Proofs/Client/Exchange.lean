import IssuerReadiness.Client.Venafi
import IssuerReadiness.Proofs.Action

/-!
# What an operation sends

A Venafi client sends requests in `Venafi.exchange` and nowhere else.  Each of its
operations is one exchange with a judgement behind it, and then it is timed and guarded
by one more look at the context.  None of this sends anything, lets time pass or makes
a success of a failed exchange.

`Asked` says how an operation goes that asks one query: it fails before anything is
sent, or it fails after the query was sent, or the query was sent and answered, and the
operation returns.  It is about the requests, the moment and the result alone, so that
it holds of an operation as soon as it holds of the exchange inside.

* `Asked`, `Asks`: an operation that asks one query.
* `asks_exchange`: one exchange.
* `Asks.judge`, `Asks.withinClient`, `Asks.timed`, `Asks.afterCheck`: what is put around it.
* `asks_ping`, `asks_authenticate`: the operations of a client.
* `Way`, `verify_of_chosen`: in which way the credentials of a connection are checked.
-/

namespace IssuerReadiness
namespace Venafi

open Http

variable {α β : Type} {c : Setting} {ctx : Context} {q : Query} {σ τ τ' : Session}
  {P : α → Int → Prop} {Q : β → Int → Prop}

/-- How an operation goes that asks the query `q` and starts in the session `σ`: what it
comes to, and the session that it leaves.  Of a value that it returns and the status of
the answer `P` holds. -/
inductive Asked (c : Setting) (ctx : Context) (q : Query) (P : α → Int → Prop) (σ : Session) :
    Except Failure α → Session → Prop where
  /-- Nothing is sent. -/
  | unsent {f : Failure} {τ : Session} (hrequests : τ.network.requests = σ.network.requests) :
      Asked c ctx q P σ (.error f) τ
  /-- The query is sent, and the operation fails. -/
  | failed {f : Failure} {τ : Session} (live : ctx.isDone σ.moment = false)
      (hrequests : τ.network.requests =
        σ.network.requests ++ [c.request q (ctx.remaining? σ.moment)]) :
      Asked c ctx q P σ (.error f) τ
  /-- The query is sent and answered, and the operation returns. -/
  | answered {x : α} {τ : Session} {t : Transfer} {rest : List Transfer} {status : Int}
      {chunks : List Bytes} (live : ctx.isDone σ.moment = false)
      (hrequests : τ.network.requests =
        σ.network.requests ++ [c.request q (ctx.remaining? σ.moment)])
      (hscript : σ.network.script = t :: rest) (hrest : τ.network.script = rest)
      (hmoment : τ.moment = t.pass ctx σ.moment)
      (hanswer : t.endingAt ctx τ.moment = .answered status chunks) (hP : P x status) :
      Asked c ctx q P σ (.ok x) τ

/-- An operation that asks the query `q`, from whichever session it starts. -/
def Asks (c : Setting) (ctx : Context) (q : Query) (P : α → Int → Prop) (a : Action α) : Prop :=
  ∀ σ, Asked c ctx q P σ (a σ).1 (a σ).2

/-- How an operation goes depends on the network and the moment it leaves only. -/
theorem Asked.congr {r : Except Failure α} (h : Asked c ctx q P σ r τ)
    (hnetwork : τ'.network = τ.network) (hmoment : τ'.moment = τ.moment) :
    Asked c ctx q P σ r τ' := by
  cases h with
  | unsent hrequests => exact .unsent (by rw [hnetwork, hrequests])
  | failed live hrequests => exact .failed live (by rw [hnetwork, hrequests])
  | answered live hrequests hscript hrest hpass hanswer hP =>
    exact .answered live (by rw [hnetwork, hrequests]) hscript (by rw [hnetwork, hrest])
      (by rw [hmoment, hpass]) (by rw [hmoment, hanswer]) hP

/-! ## One exchange -/

theorem nextTransfer_apply (σ : Session) :
    nextTransfer σ = (.ok σ.network.script.head?,
      { σ with network := { σ.network with script := σ.network.script.tail } }) := by
  obtain ⟨moment, ⟨script, requests, exhausted⟩, metrics, log, calls⟩ := σ
  cases script <;> rfl

/-- A request that is sent is added to those that were sent before.  If it is answered,
then by the next transfer of the script. -/
theorem exists_send (c : Setting) (q : Query) (ctx : Context) (σ : Session) :
    ∃ ending τ, send c q ctx σ.network.script.head?
        { σ with network := { σ.network with script := σ.network.script.tail } } = (.ok ending, τ) ∧
      τ.network.requests = σ.network.requests ++ [c.request q (ctx.remaining? σ.moment)] ∧
      ∀ status chunks, ending = .answered status chunks → ∃ t rest,
        σ.network.script = t :: rest ∧ τ.network.script = rest ∧
          τ.moment = t.pass ctx σ.moment ∧ t.endingAt ctx τ.moment = .answered status chunks := by
  cases hscript : σ.network.script with
  | nil => exact ⟨_, _, rfl, rfl, nofun⟩
  | cons t rest => exact ⟨_, _, rfl, rfl, fun _ _ h => ⟨t, rest, rfl, rfl, rfl, h⟩⟩

/-- Only an answer is judged to be one. -/
theorem eq_answered_of_judge {m : Moment} {ending : Ending} {response : Response}
    (h : judge c q ctx m ending = .ok response) :
    ∃ chunks, ending = .answered response.status chunks := by
  cases ending with
  | answered status chunks =>
    cases h
    exact ⟨chunks, rfl⟩
  | aborted => cases h
  | failed text => cases h
  | timedOut =>
    rw [judge] at h
    split at h <;> cases h

/-- An exchange asks its query, and what it returns has the status of the answer. -/
theorem asks_exchange (c : Setting) (ctx : Context) (q : Query) :
    Asks c ctx q (fun response status => response.status = status) (exchange c ctx q) := by
  intro σ
  unfold exchange
  rw [Action.check_bind_apply]
  cases hfailure : ctx.failure? σ.moment with
  | some f => exact .unsent rfl
  | none =>
    have live : ctx.isDone σ.moment = false := Context.failure?_eq_none_iff.1 hfailure
    dsimp only
    rw [Action.bind_of_ok (nextTransfer_apply σ)]
    split
    · exact .unsent rfl
    split
    · exact .unsent rfl
    obtain ⟨ending, τ, hsend, hrequests, hanswered⟩ := exists_send c q ctx σ
    rw [Action.bind_of_ok hsend, Action.bind_of_ok (Action.get_apply τ)]
    cases hjudge : judge c q ctx τ.moment ending with
    | error f => exact .failed live hrequests
    | ok response =>
      obtain ⟨chunks, hending⟩ := eq_answered_of_judge hjudge
      obtain ⟨t, rest, hscript, hrest, hmoment, hanswer⟩ := hanswered _ _ hending
      exact .answered live hrequests hscript hrest hmoment hanswer rfl

/-! ## What is put around an exchange -/

/-- What an operation comes to may be judged anew if no failure is made a success.  Of the
values that are given then `Q` holds if `P` holds of those that they are given for. -/
theorem Asked.judged {r : Except Failure α} {r' : Except Failure β} (h : Asked c ctx q P σ r τ)
    (hok : ∀ y, r' = .ok y → ∃ x, r = .ok x ∧ ∀ status, P x status → Q y status) :
    Asked c ctx q Q σ r' τ := by
  cases r' with
  | error f =>
    cases h with
    | unsent hrequests => exact .unsent hrequests
    | failed live hrequests => exact .failed live hrequests
    | answered live hrequests => exact .failed live hrequests
  | ok y =>
    obtain ⟨x, rfl, hPQ⟩ := hok y rfl
    cases h with
    | answered live hrequests hscript hrest hmoment hanswer hP =>
      exact .answered live hrequests hscript hrest hmoment hanswer (hPQ _ hP)

/-- An operation may go on with a judgement `r` of what the first step returned. -/
theorem Asks.bind_judge {a : Action α} (h : Asks c ctx q P a) {k : α → Action β}
    {r : α → Except Failure β} (hk : ∀ x σ, k x σ = (r x, σ))
    (hQ : ∀ x y status, r x = .ok y → P x status → Q y status) : Asks c ctx q Q (a >>= k) := by
  intro σ
  have hσ := h σ
  rcases ha : a σ with ⟨f | x, τ⟩
  · rw [ha] at hσ
    rw [Action.bind_of_error ha]
    exact hσ.judged nofun
  · rw [ha] at hσ
    rw [Action.bind_of_ok ha, hk]
    exact hσ.judged fun y hy => ⟨x, rfl, fun status => hQ x y status hy⟩

theorem Asks.withinClient {a : Action α} (h : Asks c ctx q P a) (context : String) :
    Asks c ctx q P (a.withinClient context) := by
  intro σ
  rw [Action.withinClient_apply]
  refine (h σ).judged fun y hy => ⟨y, ?_, fun _ hP => hP⟩
  cases hr : (a σ).1 with
  | error f => rw [hr] at hy; cases hy
  | ok x => rw [hr] at hy; exact hy

theorem Asks.timed {P : Unit → Int → Prop} {a : Action Unit} (h : Asks c ctx q P a)
    (operation : String) (metered : Bool) (logger : Logger) :
    Asks c ctx q P (a.timed operation metered logger) := by
  intro σ
  refine (h σ).congr ?_ ?_
  · cases metered <;> rfl
  · cases metered <;> rfl

/-- A look at the context sends nothing. -/
theorem Asks.afterCheck {a : Action α} (h : Asks c ctx q P a) :
    Asks c ctx q P (Action.check ctx >>= fun _ => a) := by
  intro σ
  rw [Action.check_bind_apply]
  cases ctx.failure? σ.moment with
  | some f => exact .unsent rfl
  | none => exact h σ

/-! ## Operations -/

/-- A ping asks its query, and returns on the answers of a backend that is there. -/
theorem asks_ping (c : Setting) (ctx : Context) :
    Asks c ctx (pingQuery c.connection.connector)
      (fun _ status => isAlive c.connection.connector status = true) (ping c ctx) := by
  refine (asks_exchange c ctx _).bind_judge
    (r := fun response => if isAlive c.connection.connector response.status then .ok ()
      else .error (.ofClient ("Invalid status: " ++ statusText response.status))) ?_ ?_
  · intro response σ
    split <;> rfl
  · intro response _ status hr hstatus
    split at hr
    · next halive => rwa [hstatus] at halive
    · cases hr

/-- Credentials are asked about with one query, and are good with status 200. -/
theorem asks_authenticate (c : Setting) (ctx : Context) (q : Query) :
    Asks c ctx q (fun _ status => status = 200) (authenticate c ctx q) := by
  refine (asks_exchange c ctx q).bind_judge
    (r := fun response => (requireOk response).map fun _ => response) ?_ ?_
  · intro response σ
    cases requireOk response <;> rfl
  · intro response _ status hr hstatus
    unfold requireOk at hr
    split at hr
    · next hok => rw [← hstatus, hok]
    · cases hr

/-! ## Ways of checking credentials -/

/-- The ways of checking credentials: a token is shown, a token is asked for, a key is
shown. -/
inductive Way where
  | token | password | apiKey
  deriving DecidableEq, Repr

/-- In which way the credentials of a connection are checked. -/
inductive Chosen (k : Connection) : Way → Prop where
  | token (service : k.connector = .tpp) (given : k.accessToken ≠ []) : Chosen k .token
  | password (service : k.connector = .tpp) (tokenless : k.accessToken = [])
      (named : k.username ≠ []) (given : k.password ≠ []) : Chosen k .password
  | apiKey (service : k.connector = .cloud) : Chosen k .apiKey

/-- A connection to a TPP that has neither a token nor both user name and password. -/
structure Unset (k : Connection) : Prop where
  service : k.connector = .tpp
  tokenless : k.accessToken = []
  incomplete : k.username = [] ∨ k.password = []

theorem unset_or_chosen (k : Connection) : Unset k ∨ ∃ way, Chosen k way := by
  cases service : k.connector with
  | cloud => exact Or.inr ⟨_, .apiKey service⟩
  | tpp =>
    by_cases tokenless : k.accessToken = []
    · by_cases incomplete : k.username = [] ∨ k.password = []
      · exact Or.inl ⟨service, tokenless, incomplete⟩
      · obtain ⟨named, given⟩ := not_or.1 incomplete
        exact Or.inr ⟨_, .password service tokenless named given⟩
    · exact Or.inr ⟨_, .token service tokenless⟩

namespace Way

/-- The query that checks the credentials of a connection. -/
def query (k : Connection) : Way → Query
  | .token => tokenQuery k.accessToken
  | .password => passwordQuery k.username k.password
  | .apiKey => apiKeyQuery k.apiKey

/-- What the failures of a check say first. -/
def label : Way → String
  | .token => "tppClient.VerifyAccessToken: "
  | .password => "tppClient.Authenticate: "
  | .apiKey => "cloudClient.Authenticate: "

/-- What is asked of an answer beside its status. -/
def conclude [Json.Library] : Way → Response → Except Failure Unit
  | .password, response => requireToken response.body
  | .token, _ | .apiKey, _ => .ok ()

end Way

variable [Json.Library]

/-- The credentials of a connection that has none are refused at once. -/
theorem verify_of_unset (h : Unset c.connection) (ctx : Context) :
    verify c ctx = throw
      (.ofClient "tppClient.Authenticate: neither access-token nor username/password set") := by
  rw [verify, h.service, verifyTpp, if_neg (not_not_intro h.tokenless), if_pos h.incomplete]

/-- The credentials of a connection are checked with the query of their way and a judgement
of the answer. -/
theorem verify_of_chosen {way : Way} (h : Chosen c.connection way) (ctx : Context) :
    verify c ctx = (authenticate c ctx (way.query c.connection) >>= fun response =>
      MonadExcept.ofExcept (way.conclude response)).withinClient way.label := by
  cases h with
  | token service given =>
    rw [verify, service]
    exact if_pos given
  | password service tokenless named given =>
    rw [verify, service]
    refine (if_neg (not_not_intro tokenless)).trans ((if_neg (not_or.2 ⟨named, given⟩)).trans ?_)
    refine congrArg (fun k => (authenticate c ctx _ >>= k).withinClient _)
      (funext fun response => ?_)
    rw [Way.conclude]
    cases requireToken response.body <;> rfl
  | apiKey service =>
    rw [verify, service]
    rfl

theorem asks_verify_of_chosen {way : Way} (h : Chosen c.connection way) (ctx : Context) :
    Asks c ctx (way.query c.connection) (fun _ status => status = 200) (verify c ctx) := by
  rw [verify_of_chosen h]
  exact ((asks_authenticate c ctx _).bind_judge (fun _ _ => Action.ofExcept_apply ..)
    fun _ _ _ _ hstatus => hstatus).withinClient _

end Venafi
end IssuerReadiness
