import IssuerReadiness.Proofs.Client.Wire
import IssuerReadiness.Proofs.Setup.Isolation

/-!
# Credentials stay with their backend

A setup with Venafi clients sends two requests at most.  The first one asks whether the
backend is there and carries no credential.  The second one carries the credentials, in
the place that is meant for them, and it is sent only after the first was answered well,
to the same base URL and with the same trust bundle.

`Confined` says so of the requests of a setup that has sent any.  The second request
is sent at the moment when the first transfer has ended, and its time limit is counted
from there.

* `sent_verify`, `sent_ping`: what is sent from a stage on.
* `confined_run`: what a setup sends.
-/

namespace IssuerReadiness

open Http

/-- What a setup may have sent to the backend of the connection `k` that has sent
anything, if it starts at the moment `m` with the transfers `script` to come. -/
inductive Confined (k : Connection) (connectTimeout : Int) (ctx : Context) (m : Moment)
    (script : List Transfer) : List Request → Prop where
  | pinged (live : ctx.isDone m = false) :
      Confined k connectTimeout ctx m script [k.pinged connectTimeout ctx m]
  | verified {t : Transfer} {rest : List Transfer} {status : Int} {chunks : List Bytes}
      {method path : String} {headers : List Bytes} {body : Option Posted}
      (live : ctx.isDone m = false) (hscript : script = t :: rest)
      (hanswer : t.endingAt ctx (t.pass ctx m) = .answered status chunks)
      (hstatus : k.IsThere status) (still : ctx.isDone (t.pass ctx m) = false)
      (hverification : k.Verification method path headers body) :
      Confined k connectTimeout ctx m script
        [k.pinged connectTimeout ctx m,
          k.wired connectTimeout ctx (t.pass ctx m) method path headers body]

namespace Setup

variable {ctx : Context} {c : Venafi.Setting} {metered : Bool} {logger : Logger} {issuer : Issuer}
  {userAgent : String}

/-- A stage asks what its operation asks, and goes on from there. -/
theorem exists_asked {q : Venafi.Query} {P : Unit → Int → Prop} (operation : Context → Action Unit)
    (h : Venafi.Asks c ctx q P (operation ctx)) (failed : Failure → Session → Outcome × Session)
    (next : Unit → Session → Outcome × Session) (σ : Session) :
    ∃ r τ, Venafi.Asked c ctx q P σ r τ ∧ (guarded ctx operation).onResult failed next σ =
      match r with
      | .error f => failed f τ
      | .ok x => next x τ := by
  have hσ := h.afterCheck σ
  rcases hop : guarded ctx operation σ with ⟨f | x, τ⟩
  · exact ⟨.error f, τ, by rwa [← guarded, hop] at hσ, Action.onResult_of_error hop⟩
  · exact ⟨.ok x, τ, by rwa [← guarded, hop] at hσ, Action.onResult_of_ok hop⟩

/-- A stage whose operation fails at once sends nothing. -/
theorem guarded_of_throw (operation : Context → Action Unit) {f : Failure} {name : String}
    (h : operation ctx = Action.timed name metered logger (throw f)) (σ : Session) :
    ∃ f' τ, guarded ctx operation σ = (.error f', τ) ∧ τ.network = σ.network := by
  rw [guarded, Action.check_bind_apply, h]
  cases ctx.failure? σ.moment with
  | some f' => exact ⟨f', σ, rfl, rfl⟩
  | none =>
    refine ⟨f, _, rfl, ?_⟩
    cases metered <;> rfl

/-- The last stage sends one request that checks the credentials, or it sends nothing
and fails. -/
theorem sent_verify [Json.Library] (s : Setup) (metered : Bool) (logger : Logger) (ctx : Context)
    (recorder : Recorder) (h : Connection.Resolved issuer userAgent c.connection) (σ : Session) :
    let r := s.verify ctx issuer recorder ((Venafi.client c).instrument metered logger) σ
    (r.2.network.requests = σ.network.requests ∧ r.1.verdict ≠ .ok ()) ∨
      ∃ method path headers body, c.connection.Verification method path headers body ∧
        ctx.isDone σ.moment = false ∧
          r.2.network.requests = σ.network.requests ++
            [c.connection.wired c.connectTimeout ctx σ.moment method path headers body] := by
  let operation : Context → Action Unit := fun ctx =>
    (Venafi.verify c ctx).timed Client.verifyOperation metered logger
  have hoperation : ((Venafi.client c).instrument metered logger).verify? = some operation := rfl
  dsimp only
  rw [verify_eq hoperation]
  rcases Venafi.asks_verify c ctx h.apiKey with ⟨q, hverification, hasks⟩ | ⟨f, hf⟩
  · obtain ⟨r, τ, hasked, hr⟩ := exists_asked operation
      (hasks.timed Client.verifyOperation metered logger) (s.fail issuer recorder .verify)
      (fun _ τ => s.succeed issuer recorder (s.checked issuer τ)) σ
    rw [hr]
    have hwired := Venafi.request_eq_wired h.notMem_baseUrl hverification.notMem_path ctx σ.moment
    cases hasked with
    | unsent hrequests => exact Or.inl ⟨hrequests, nofun⟩
    | failed live hrequests | answered live hrequests =>
      rw [hwired] at hrequests
      exact Or.inr ⟨_, _, _, _, hverification, live, hrequests⟩
  · obtain ⟨f', τ, hop, hnetwork⟩ := guarded_of_throw operation
      (congrArg (Action.timed Client.verifyOperation metered logger) hf) σ
    rw [Action.onResult_of_error hop]
    exact Or.inl ⟨congrArg Network.requests hnetwork, nofun⟩

/-- The stages after the first send what is confined to the backend of the connection,
or nothing, and succeed only if they have sent both requests. -/
theorem sent_ping [Json.Library] (s : Setup) (metered : Bool) (logger : Logger) (ctx : Context)
    (recorder : Recorder) (h : Connection.Resolved issuer userAgent c.connection) (σ : Session) :
    let r := s.ping ctx issuer recorder ((Venafi.client c).instrument metered logger) σ
    (r.2.network.requests = σ.network.requests ∧ r.1.verdict ≠ .ok ()) ∨
      ∃ sent, Confined c.connection c.connectTimeout ctx σ.moment σ.network.script sent ∧
        (r.1.verdict = .ok () → sent.length = 2) ∧
          r.2.network.requests = σ.network.requests ++ sent := by
  let operation : Context → Action Unit := fun ctx =>
    (Venafi.ping c ctx).timed Client.pingOperation metered logger
  have hoperation : ((Venafi.client c).instrument metered logger).ping = operation := rfl
  dsimp only
  rw [ping_eq, hoperation]
  obtain ⟨r, τ, hasked, hr⟩ := exists_asked operation
    ((Venafi.asks_ping c ctx).timed Client.pingOperation metered logger)
    (s.fail issuer recorder .ping) (fun _ τ => s.verify ctx issuer recorder
      ((Venafi.client c).instrument metered logger) (s.reached issuer τ)) σ
  rw [hr]
  have hpinged := Venafi.request_pingQuery h.notMem_baseUrl ctx σ.moment
  cases hasked with
  | unsent hrequests => exact Or.inl ⟨hrequests, nofun⟩
  | failed live hrequests =>
    rw [hpinged] at hrequests
    exact Or.inr ⟨_, .pinged live, nofun, hrequests⟩
  | answered live hrequests hscript hrest hmoment hanswer hstatus =>
    rw [hpinged] at hrequests
    rw [hmoment] at hanswer
    rcases sent_verify s metered logger ctx recorder h (s.reached issuer τ) with
      ⟨hsame, hfailed⟩ | ⟨method, path, headers, body, hverification, still, hsent⟩
    · exact Or.inr ⟨_, .pinged live, fun hok => absurd hok hfailed, hsame.trans hrequests⟩
    · -- The second request is sent when the first transfer has ended.
      have hreached : (s.reached issuer τ).moment = τ.moment := rfl
      rw [hreached, hmoment] at still hsent
      refine Or.inr ⟨_, .verified live hscript hanswer (Venafi.isThere_of_isAlive hstatus) still
        hverification, fun _ => rfl, ?_⟩
      rw [hsent]
      show τ.network.requests ++ _ = _
      rw [hrequests, List.append_assoc]
      rfl

/-- A builder of Venafi clients sends nothing, and what it builds is the instrumented
client of the connection that it has resolved. -/
theorem exists_build [Json.Library] [Certificate.Library] (s : Setup) (userAgent : String)
    (connectTimeout : Int) (secrets : SecretStore) (ctx : Context) (issuer : Issuer) (σ : Session) :
    ∃ r τ, ({ s with builder := Venafi.builder userAgent connectTimeout } : Setup).build secrets ctx
        issuer σ = (r, τ) ∧ τ.network = σ.network ∧ τ.moment = σ.moment ∧
      ∀ client, r = .ok client → ∃ k,
        Connection.resolve issuer secrets (issuer.resourceNamespace s.clusterNamespace) userAgent =
            .ok k ∧
          client = (Venafi.client ⟨k, connectTimeout, s.logger⟩).instrument s.metered s.logger := by
  rw [build_eq, Action.check_bind_apply]
  cases ctx.failure? σ.moment with
  | some f => exact ⟨_, _, rfl, rfl, rfl, nofun⟩
  | none =>
    unfold Venafi.builder request
    dsimp only
    cases hresolve : Connection.resolve issuer secrets
        (issuer.resourceNamespace s.clusterNamespace) userAgent with
    | error f => exact ⟨_, _, rfl, rfl, rfl, nofun⟩
    | ok k =>
      refine ⟨_, _, rfl, rfl, rfl, fun client hclient => ⟨k, rfl, ?_⟩⟩
      exact (Except.ok.inj hclient).symm

/-- **Credentials are confined.**  Whatever the issuer, the secrets, the context and the
network are, a setup sends nothing and fails, or it has resolved a connection and sends
what is confined to the backend of that connection; it succeeds only if it has sent both
requests.  The base URL is the one that the issuer names, normalized, and it is a secure
one. -/
theorem confined_run [Json.Library] [Certificate.Library] (s : Setup) (userAgent : String)
    (connectTimeout : Int) (secrets : SecretStore) (ctx : Context) (issuer : Issuer) (recorder : Recorder)
    (σ : Session) :
    let r := ({ s with builder := Venafi.builder userAgent connectTimeout } : Setup).run secrets ctx
      issuer recorder σ
    (r.2.network.requests = σ.network.requests ∧ r.1.verdict ≠ .ok ()) ∨
      ∃ k sent,
        Connection.resolve issuer secrets (issuer.resourceNamespace s.clusterNamespace) userAgent =
            .ok k ∧
          Connection.Resolved issuer userAgent k ∧ "https://".toList <+: k.baseUrl.toList ∧
          Confined k connectTimeout ctx σ.moment σ.network.script sent ∧
          (r.1.verdict = .ok () → sent.length = 2) ∧
          r.2.network.requests = σ.network.requests ++ sent := by
  dsimp only
  rw [run_eq, opened_withBuilder]
  obtain ⟨result, τ, hbuild, hnetwork, hmoment, hclient⟩ :=
    exists_build s userAgent connectTimeout secrets ctx issuer (s.opened issuer σ)
  cases result with
  | error f =>
    rw [Action.onResult_of_error hbuild]
    exact Or.inl ⟨congrArg Network.requests hnetwork, nofun⟩
  | ok client =>
    rw [Action.onResult_of_ok hbuild, ping_withBuilder, built_withBuilder]
    obtain ⟨k, hresolve, rfl⟩ := hclient client rfl
    have hresolved := Connection.resolved_of_resolve hresolve
    have hstart : (s.built issuer τ).network = σ.network := hnetwork
    have hsince : (s.built issuer τ).moment = σ.moment := hmoment
    rcases sent_ping (c := ⟨k, connectTimeout, s.logger⟩) s s.metered s.logger ctx recorder
      hresolved (s.built issuer τ) with ⟨hsame, hfailed⟩ | ⟨sent, hconfined, hboth, hsent⟩
    · rw [hstart] at hsame
      exact Or.inl ⟨hsame, hfailed⟩
    · rw [hstart] at hsent hconfined
      rw [hsince] at hconfined
      exact Or.inr ⟨k, sent, hresolve, hresolved, hresolved.secure, hconfined, hboth, hsent⟩

/-- A token with a NUL. -/
def cutSecret : Secret :=
  { name := "a/tpp", ns := "team", data := [("access-token", [0x61, 0x00, 0x62])] }

/-- A token with a NUL is not sent as a whole, but up to there. -/
theorem headers_cutSecret :
    (@Connection.resolve Certificate.pem teamIssuer (.addAll {} [cutSecret]) "team"
        "certissuer/1.0.0").toOption.map (·.accessToken) = some [0x61, 0x00, 0x62] ∧
      (teamRun [cutSecret]).2.network.requests.map (·.headers) ≠
        [[], [Bytes.ofString "Authorization: Bearer " ++ [0x61, 0x00, 0x62],
          Bytes.ofString "Accept: application/json"]] ∧
      (teamRun [cutSecret]).2.network.requests.map (·.headers) =
        [[], [Bytes.ofString "Authorization: Bearer " ++ [0x61],
          Bytes.ofString "Accept: application/json"]] := by
  have hheaders : (teamRun [cutSecret]).2.network.requests.map (·.headers) =
      [[], [Bytes.ofString "Authorization: Bearer " ++ [0x61],
        Bytes.ofString "Accept: application/json"]] := by decide +kernel
  refine ⟨by decide +kernel, ?_, hheaders⟩
  rw [hheaders]
  decide

end Setup
end IssuerReadiness
