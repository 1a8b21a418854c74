import IssuerReadiness.Json.Parser
import IssuerReadiness.Proofs.Client.Wire

/-!
# Requests that take too long

A client derives the time limit of a request from the deadline of its context, so that a
request that is still under way when the limit is reached should fail as the context
does.  Whether it does is decided by two roundings that do not agree.

## The two roundings

The limit is what is left until the deadline in *whole* milliseconds, cut off, and one at
least.  Whether the context is done is decided to the nanosecond.  So the limit comes up
to a millisecond before the deadline, and a transfer that ends in that gap is reported as
a fault of the backend: the operation fails with a failure of the client, and says
nothing of a deadline.

The gap is there if and only if more than a millisecond is left and not a whole number of
them.  With a whole number the limit is the deadline, and with less than a millisecond the
limit comes after it.

* `GivenUp`: the failure of an operation whose transfer has run out of time.
* `GivesUp`: an operation that fails so, as `GivesUp.bind` and `GivesUp.withinClient`
  carry it from the exchange to the operations of a client.
* `overdue_of_timedOut`: what becomes of an operation whose limit has passed.
* `ping_halfMillisecond`: a ping in the gap.
-/

namespace IssuerReadiness
namespace Venafi

open Http

variable {α β : Type} {c : Setting} {ctx : Context} {q : Query} {σ τ : Session} {t : Transfer}
  {rest : List Transfer}

/-! ## Running out of time -/

/-- The failures of an operation whose transfer was stopped, or ran out of time, and left
the moment `m`: the one of the context if it is done, cancellation first, and one of the
client if it is not. -/
inductive GivenUp (ctx : Context) (m : Moment) : Failure → Prop where
  | canceled (h : ctx.isCanceled m = true) :
      GivenUp ctx m (.context "CONTEXT_CANCELED" "context canceled")
  | expired (h : ctx.isCanceled m = false) (h' : ctx.isExpired m = true) :
      GivenUp ctx m (.context "CONTEXT_DEADLINE_EXCEEDED" "context deadline exceeded")
  | live (h : ctx.isDone m = false) {message : String} :
      GivenUp ctx m (.client "CLIENT_ERROR" message)

theorem givenUp_contextFailure {m : Moment} (h : ctx.isDone m = true) :
    GivenUp ctx m (contextFailure ctx m) := by
  unfold contextFailure Context.failure? Context.err?
  cases hcanceled : ctx.isCanceled m with
  | true => exact .canceled hcanceled
  | false =>
    have hexpired : ctx.isExpired m = true := by rwa [Context.isDone, hcanceled] at h
    rw [hexpired]
    exact .expired hcanceled hexpired

/-- More words before the message of a client failure make no other failure of it. -/
theorem GivenUp.withinClient {m : Moment} {f : Failure} (h : GivenUp ctx m f) (context : String) :
    GivenUp ctx m (f.withinClient context) := by
  cases h with
  | canceled h => exact .canceled h
  | expired h h' => exact .expired h h'
  | live h => exact .live h

/-- A transfer that runs out of time is stopped before, or it is judged when it has. -/
theorem exists_judge (hending : t.ending = .timedOut) (c : Setting) (q : Query) (ctx : Context)
    (m : Moment) : ∃ f, judge c q ctx m (t.endingAt ctx m) = .error f ∧ GivenUp ctx m f := by
  cases hdone : ctx.isDone m with
  | true =>
    have hgiven := givenUp_contextFailure hdone
    unfold Transfer.endingAt
    rw [hdone, Bool.and_true, hending]
    cases t.asks with
    | true => exact ⟨_, rfl, hgiven⟩
    | false => exact ⟨_, if_pos hdone, hgiven⟩
  | false =>
    unfold Transfer.endingAt
    rw [hdone, Bool.and_false, if_neg Bool.false_ne_true, hending]
    exact ⟨_, if_neg (by rw [hdone]; exact Bool.false_ne_true), .live hdone⟩

/-! ## Operations -/

/-- How an operation fails that starts in the session `σ` when the transfer `t` is going to
run out of time: it sends nothing, or it sends one request and gives it up. -/
inductive Fails (c : Setting) (ctx : Context) (t : Transfer) (σ : Session) :
    Except Failure α → Session → Prop where
  | unsent {f : Failure} {τ : Session} (hrequests : τ.network.requests = σ.network.requests) :
      Fails c ctx t σ (.error f) τ
  | sent {f : Failure} {τ : Session} {q : Query} (live : ctx.isDone σ.moment = false)
      (hrequests : τ.network.requests =
        σ.network.requests ++ [c.request q (ctx.remaining? σ.moment)])
      (hgiven : GivenUp ctx (t.pass ctx σ.moment) f) : Fails c ctx t σ (.error f) τ

/-- An operation that fails so whenever the next transfer runs out of time. -/
def GivesUp (c : Setting) (ctx : Context) (a : Action α) : Prop :=
  ∀ σ t rest, σ.network.script = t :: rest → t.ending = .timedOut →
    Fails c ctx t σ (a σ).1 (a σ).2

/-- One exchange gives its request up.  There is no other way for it to go. -/
theorem givesUp_exchange (c : Setting) (ctx : Context) (q : Query) :
    GivesUp c ctx (exchange c ctx q) := by
  intro σ t rest hscript hending
  unfold exchange
  rw [Action.check_bind_apply]
  cases hfailure : ctx.failure? σ.moment with
  | some f => exact .unsent rfl
  | none =>
    have live : ctx.isDone σ.moment = false := Context.failure?_eq_none_iff.1 hfailure
    dsimp only
    rw [Action.bind_of_ok (nextTransfer_apply σ), hscript, List.head?_cons]
    split
    · exact .unsent rfl
    split
    · exact .unsent rfl
    have hsend : ∃ τ, send c q ctx (some t)
          { σ with network := { σ.network with script := (t :: rest).tail } } =
            (.ok (t.endingAt ctx (t.pass ctx σ.moment)), τ) ∧
        τ.network.requests = σ.network.requests ++ [c.request q (ctx.remaining? σ.moment)] ∧
        τ.moment = t.pass ctx σ.moment := ⟨_, rfl, rfl, rfl⟩
    obtain ⟨τ, hsend, hrequests, hmoment⟩ := hsend
    rw [Action.bind_of_ok hsend, Action.bind_of_ok (Action.get_apply τ), hmoment]
    obtain ⟨f, hjudge, hgiven⟩ := exists_judge hending c q ctx (t.pass ctx σ.moment)
    rw [hjudge]
    exact .sent live hrequests hgiven

/-- Nothing comes after a failure. -/
theorem GivesUp.bind {a : Action α} (h : GivesUp c ctx a) (k : α → Action β) :
    GivesUp c ctx (a >>= k) := by
  intro σ t rest hscript hending
  have hσ := h σ t rest hscript hending
  rcases ha : a σ with ⟨f | x, τ⟩
  · rw [ha] at hσ
    rw [Action.bind_of_error ha]
    cases hσ with
    | unsent hrequests => exact .unsent hrequests
    | sent live hrequests hgiven => exact .sent live hrequests hgiven
  · rw [ha] at hσ
    cases hσ

theorem GivesUp.withinClient {a : Action α} (h : GivesUp c ctx a) (context : String) :
    GivesUp c ctx (a.withinClient context) := by
  intro σ t rest hscript hending
  have hσ := h σ t rest hscript hending
  rw [Action.withinClient_apply]
  rcases ha : a σ with ⟨f | x, τ⟩
  · rw [ha] at hσ
    cases hσ with
    | unsent hrequests => exact .unsent hrequests
    | sent live hrequests hgiven => exact .sent live hrequests (hgiven.withinClient context)
  · rw [ha] at hσ
    cases hσ

theorem givesUp_ping (c : Setting) (ctx : Context) : GivesUp c ctx (ping c ctx) :=
  (givesUp_exchange c ctx _).bind _

theorem givesUp_authenticate (c : Setting) (ctx : Context) (q : Query) :
    GivesUp c ctx (authenticate c ctx q) :=
  (givesUp_exchange c ctx q).bind _

theorem givesUp_verify [Json.Library] (c : Setting) (ctx : Context) :
    GivesUp c ctx (verify c ctx) := by
  rcases unset_or_chosen c.connection with h | ⟨way, h⟩
  · rw [verify_of_unset h]
    exact fun σ t rest _ _ => .unsent rfl
  · rw [verify_of_chosen h]
    exact ((givesUp_authenticate c ctx _).bind _).withinClient _

/-! ## The gap -/

/-- How an operation fails whose limit has passed, with a deadline at the time `d`, if its
request was sent at the moment `start` and its transfer left the moment `after`.  It fails
as its context, unless the transfer has ended in the last millisecond before the deadline;
this takes a limit that was rounded down. -/
inductive Overdue (ctx : Context) (d : Instant) (start after : Moment) : Failure → Prop where
  | canceled (h : ctx.isCanceled after = true) :
      Overdue ctx d start after (.context "CONTEXT_CANCELED" "context canceled")
  | expired (h : ctx.isCanceled after = false) (h' : d ≤ after.now) :
      Overdue ctx d start after (.context "CONTEXT_DEADLINE_EXCEEDED" "context deadline exceeded")
  | early (h : ctx.isCanceled after = false) (before : after.now < d)
      (short : d - after.now < 1000000) (long : 1000000 < d - start.now)
      (rounded : ¬ 1000000 ∣ d - start.now) {message : String} :
      Overdue ctx d start after (.client "CLIENT_ERROR" message)

/-- A transfer takes its time. -/
theorem now_pass (t : Transfer) (ctx : Context) (m : Moment) :
    (t.pass ctx m).now = m.now + t.advance * 1000 := by
  unfold Transfer.pass
  cases t.cancels <;> rfl

/-- A limit that has passed before the deadline was rounded down, by less than a
millisecond. -/
theorem rounded_of_early {d start advance : Int}
    (hlimit : max 1 ((d - start) / 1000000) * 1000 ≤ advance) (h : start + advance * 1000 < d) :
    d - (start + advance * 1000) < 1000000 ∧ 1000000 < d - start ∧ ¬ 1000000 ∣ d - start := by
  omega

/-- **When the time limit of a request has passed.**  Take a client, a ping or a check of
credentials that has sent its request `r`, and a context with a deadline.  The request has
a time limit, and if its transfer is reported to have run out of time when that limit has
passed, then the operation fails as its context, canceled or expired, if it is done; and
if it is not then the limit was rounded down, and the operation fails as if the backend
were at fault. -/
theorem overdue_of_timedOut [Json.Library] (c : Setting) {ctx : Context} {d : Instant}
    (hd : ctx.deadline = some d) {operation : Context → Action Unit}
    (hoperation : operation = ping c ∨ operation = verify c) {σ : Session} {t : Transfer}
    {rest : List Transfer} (hscript : σ.network.script = t :: rest)
    (hending : t.ending = .timedOut) {r : Request}
    (hsent : (operation ctx σ).2.network.requests = σ.network.requests ++ [r]) :
    ∃ ms f, r.timeoutMs = some ms ∧ (operation ctx σ).1 = .error f ∧
      (ms * 1000 ≤ t.advance → Overdue ctx d σ.moment (t.pass ctx σ.moment) f) := by
  have hgives : GivesUp c ctx (operation ctx) := by
    rcases hoperation with rfl | rfl
    · exact givesUp_ping c ctx
    · exact givesUp_verify c ctx
  have hσ := hgives σ t rest hscript hending
  rcases hop : operation ctx σ with ⟨result, τ⟩
  rw [hop] at hσ hsent
  cases hσ with
  | unsent hrequests =>
    rw [hrequests, List.self_eq_append_right] at hsent
    cases hsent
  | @sent f _ q _ hrequests hgiven =>
    have hr : r = c.request q (ctx.remaining? σ.moment) := by
      rw [hrequests] at hsent
      exact (List.singleton_inj.1 (List.append_cancel_left hsent)).symm
    refine ⟨max 1 ((d - σ.moment.now) / 1000000), f, ?_, rfl, fun hlimit => ?_⟩
    · rw [hr, Setting.request, timeLimit_eq, hd]
      rfl
    cases hgiven with
    | canceled h => exact .canceled h
    | expired h h' =>
      rw [Context.isExpired, hd] at h'
      exact .expired h (of_decide_eq_true h')
    | live h =>
      obtain ⟨hcanceled, hexpired⟩ := Bool.or_eq_false_iff.1 h
      rw [Context.isExpired, hd] at hexpired
      have hearly : (t.pass ctx σ.moment).now < d := Int.not_le.1 (of_decide_eq_false hexpired)
      obtain ⟨hshort, hlong, hrounded⟩ := rounded_of_early hlimit (now_pass t ctx σ.moment ▸ hearly)
      rw [← now_pass t ctx] at hshort
      exact .early hcanceled hearly hshort hlong hrounded

/-- A client of the cloud service. -/
def cloudSetting : Setting where
  connection := { connector := .cloud, baseUrl := "https://api.venafi.cloud/", apiKey := [0x6B] }
  connectTimeout := 10
  logger := {}

/-- A context whose deadline is five and a half milliseconds after the zero of the clock. -/
def unevenContext : Context := ⟨0, some 5500000⟩

/-- A session at the zero of the clock, with one transfer to come that is reported to have
run out of time after so many microseconds. -/
def timingOut (us : Int) : Session where
  moment := { now := 0 }
  network := { script := [{ advance := us, ending := .timedOut }] }

/-- A check of credentials whose transfer ends at the deadline fails as its context. -/
theorem overdue_verify_cloudSetting :
    unevenContext.deadline = some 5500000 ∧
      (@verify Json.strict cloudSetting unevenContext (timingOut 5500)).1 =
        .error (.context "CONTEXT_DEADLINE_EXCEEDED" "context deadline exceeded") ∧
      ∃ ms f, ms = 5 ∧
        (@verify Json.strict cloudSetting unevenContext (timingOut 5500)).1 = .error f ∧
        Overdue unevenContext 5500000 { now := 0 } { now := 5500000 } f := by
  have hsent :
      (@verify Json.strict cloudSetting unevenContext (timingOut 5500)).2.network.requests =
        (timingOut 5500).network.requests ++
          [cloudSetting.request (apiKeyQuery [0x6B]) (some 5)] := by decide +kernel
  obtain ⟨ms, f, hms, hf, hoverdue⟩ := @overdue_of_timedOut Json.strict cloudSetting _ 5500000 rfl
    _ (Or.inr rfl) _ _ _ rfl rfl _ hsent
  have hfive : ms = 5 := (Option.some.inj hms).symm
  subst hfive
  exact ⟨rfl, rfl, 5, f, rfl, hf, hoverdue (by decide)⟩

/-- A ping that starts before the deadline and gets a limit of five milliseconds, half a
millisecond too few.  Its transfer runs out of time after just these five, and the ping
does not fail as its context. -/
theorem ping_halfMillisecond :
    let r := ping cloudSetting unevenContext (timingOut 5000)
    unevenContext.isDone (timingOut 5000).moment = false ∧
      r.2.network.requests.map (·.timeoutMs) = [some 5] ∧
      (timingOut 5000).network.script = [{ advance := 5 * 1000, ending := .timedOut }] ∧
      r.1 = .error (.client "CLIENT_ERROR"
        "GET \"https://api.venafi.cloud/\": Timeout was reached") ∧
      r.1 ≠ .error (.context "CONTEXT_DEADLINE_EXCEEDED" "context deadline exceeded") := by
  intro r
  have hfails : r.1 = .error (.client "CLIENT_ERROR"
      "GET \"https://api.venafi.cloud/\": Timeout was reached") := rfl
  refine ⟨rfl, rfl, rfl, hfails, fun hexceeded => ?_⟩
  cases hfails.symm.trans hexceeded

end Venafi
end IssuerReadiness
