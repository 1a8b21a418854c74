import IssuerReadiness.Proofs.Setup.Stages

/-!
# The course of a setup

A setup goes through its stages in order and stops at the first one that is in
trouble.  What trouble is, and which stage is the first, depends on the context at the
moment each stage starts, and the calls before it may have changed the context in the
meantime.  So the course of a setup is described here one stage at a time, each from
the session that the stage before it left.

## Attempts

`Attempt ctx op σ called r τ` says how a stage with the operation `op` goes that starts
in the session `σ`: whether the operation is called at all, what it comes to (a value,
or the cause of a failure), and the session that is left.  The five ways are exclusive
and there is no other (`Attempt.unique`, `exists_attempt`).

## Courses

`Course` strings attempts together.  It names the calls that were made, the stage in
which the setup stopped and why, and the session in which the verdict is written.

## Calls

Nothing forces a client to keep a journal, so that the calls which a setup makes are
observed through `Setup.journaled`: the same setup, with every call of the builder and
of the client noted.  Builder and client are arbitrary functions of the whole session,
so that this covers every behavior they can have.

* `Names`: the error of a stage and a cause, with all texts spelled out.
* `run_takes_course`: the verdict and the calls of every setup are those of its course.
-/

namespace IssuerReadiness

/-! ## Journaled clients -/

/-- The operation, noted in the journal.  What it writes to the journal itself does not
count. -/
def Action.journaled {α : Type} (call : Call) (a : Action α) : Action α := fun σ =>
  let (result, τ) := a σ
  (result, { τ with calls := σ.calls ++ [call] })

/-- The client with its calls noted. -/
def Client.journaled (c : Client) : Client where
  ping := fun ctx => (c.ping ctx).journaled .ping
  verify? := c.verify?.map fun verify ctx => (verify ctx).journaled .verify

/-- The call that a builder gets with a request. -/
def BuildRequest.call (req : BuildRequest) : Call :=
  .build req.ns req.clusterNamespace req.issuer.name req.metered

/-- The builder with its calls, and those of the clients that it builds, noted. -/
def Builder.journaled (b : Builder) : Builder := fun req =>
  Option.map Client.journaled <$> (b req).journaled req.call

theorem Action.journaled_apply {α : Type} {call : Call} {a : Action α} {σ τ : Session}
    {result : Except Failure α} (h : a.journaled call σ = (result, τ)) :
    τ.calls = σ.calls ++ [call] := by
  rw [← show (a.journaled call σ).2 = τ by rw [h]]
  rfl

/-- A client that a journaled builder builds is journaled, and the call is noted. -/
theorem Builder.journaled_apply {b : Builder} {req : BuildRequest} {σ τ : Session}
    {result : Except Failure (Option Client)} (h : b.journaled req σ = (result, τ)) :
    τ.calls = σ.calls ++ [req.call] ∧
      ∀ client, result = .ok (some client) → ∃ c : Client, client = c.journaled := by
  rw [Builder.journaled, map_eq_pure_bind] at h
  rcases hb : (b req).journaled req.call σ with ⟨e | client?, τ'⟩
  · rw [Action.bind_of_error hb] at h
    cases h
    exact ⟨Action.journaled_apply hb, fun client hclient => by cases hclient⟩
  · rw [Action.bind_of_ok hb] at h
    cases h
    refine ⟨Action.journaled_apply hb, fun client hclient => ?_⟩
    obtain ⟨c, -, hc⟩ := Option.map_eq_some_iff.1 (Except.ok.inj hclient)
    exact ⟨c, hc.symm⟩

namespace Setup

/-! ## Attempts -/

/-- How a stage goes that starts in the session `σ`: it is not started if the context
is done, and otherwise its operation is called, and fails or returns. -/
inductive Attempt {α : Type} (ctx : Context) (op : Action α) (σ : Session) :
    (called : Bool) → Except String α → Session → Prop where
  | canceled (h : ctx.isCanceled σ.moment = true) :
      Attempt ctx op σ false (.error "context canceled") σ
  | expired (h : ctx.isCanceled σ.moment = false) (h' : ctx.isExpired σ.moment = true) :
      Attempt ctx op σ false (.error "context deadline exceeded") σ
  | failed {f : Failure} {text : String} {τ : Session} (live : ctx.isDone σ.moment = false)
      (h : op σ = (.error f, τ)) (htext : f.text? = some text) :
      Attempt ctx op σ true (.error text) τ
  | failedMute {f : Failure} {τ : Session} (live : ctx.isDone σ.moment = false)
      (h : op σ = (.error f, τ)) (htext : f.text? = none) :
      Attempt ctx op σ true (.error "unknown error") τ
  | returned {x : α} {τ : Session} (live : ctx.isDone σ.moment = false)
      (h : op σ = (.ok x, τ)) : Attempt ctx op σ true (.ok x) τ

variable {α β : Type} {ctx : Context} {op : Action α} {σ τ : Session}

/-- Every stage goes in one of the five ways. -/
theorem exists_attempt (ctx : Context) (op : Action α) (σ : Session) :
    ∃ called r τ, Attempt ctx op σ called r τ := by
  cases hc : ctx.isCanceled σ.moment with
  | true => exact ⟨_, _, _, .canceled hc⟩
  | false =>
    cases he : ctx.isExpired σ.moment with
    | true => exact ⟨_, _, _, .expired hc he⟩
    | false =>
      have live : ctx.isDone σ.moment = false := by rw [Context.isDone, hc, he]; rfl
      rcases hop : op σ with ⟨f | x, τ⟩
      · cases htext : f.text? with
        | none => exact ⟨_, _, _, .failedMute live hop htext⟩
        | some text => exact ⟨_, _, _, .failed live hop htext⟩
      · exact ⟨_, _, _, .returned live hop⟩

/-- No stage goes in two ways. -/
theorem Attempt.unique {called called' : Bool} {r r' : Except String α} {τ' : Session}
    (h : Attempt ctx op σ called r τ) (h' : Attempt ctx op σ called' r' τ') :
    called = called' ∧ r = r' ∧ τ = τ' := by
  cases h <;> cases h' <;> grind [Context.isDone]

/-- A stage that fails ends an operation that starts with it, with a failure of that
cause. -/
theorem Attempt.bind_error {called : Bool} {cause : String}
    (h : Attempt ctx op σ called (.error cause) τ) (k : α → Action β) :
    ∃ f : Failure, f.cause = cause ∧
      (Action.check ctx >>= fun _ => op >>= k) σ = (.error f, τ) := by
  cases h with
  | canceled h =>
    have hfailure : ctx.failure? σ.moment = some Ended.canceled.failure := by
      rw [Context.failure?, Context.err?, h]; rfl
    exact ⟨_, rfl, Action.bind_of_error (Action.check_of_failure hfailure)⟩
  | expired h h' =>
    have hfailure : ctx.failure? σ.moment = some Ended.deadlineExceeded.failure := by
      rw [Context.failure?, Context.err?, h, h']; rfl
    exact ⟨_, rfl, Action.bind_of_error (Action.check_of_failure hfailure)⟩
  | failed live h htext =>
    refine ⟨_, by rw [Failure.cause, htext, Option.getD_some], ?_⟩
    rw [Action.bind_of_ok (Action.check_of_live live), Action.bind_of_error h]
  | failedMute live h htext =>
    refine ⟨_, by rw [Failure.cause, htext]; rfl, ?_⟩
    rw [Action.bind_of_ok (Action.check_of_live live), Action.bind_of_error h]

/-- An operation that starts with a stage goes on with the value of the stage. -/
theorem Attempt.bind_ok {called : Bool} {x : α} (h : Attempt ctx op σ called (.ok x) τ)
    (k : α → Action β) : (Action.check ctx >>= fun _ => op >>= k) σ = k x τ := by
  cases h with
  | returned live h => rw [Action.bind_of_ok (Action.check_of_live live), Action.bind_of_ok h]

/-- A journaled operation is in the journal if and only if it was called. -/
theorem Attempt.calls {call : Call} {called : Bool} {r : Except String α}
    (h : Attempt ctx (op.journaled call) σ called r τ) :
    τ.calls = σ.calls ++ if called then [call] else [] := by
  cases h with
  | canceled | expired => simp
  | failed _ h | failedMute _ h | returned _ h => exact Action.journaled_apply h

/-! ## Courses -/

/-- The courses of a setup that starts in the session `σ`: the calls that are made, the
stage in which it stops and the cause, if it stops, and the session that the last stage
leaves.  A client that cannot check its credentials has no third stage. -/
inductive Course (s : Setup) (secrets : SecretStore) (ctx : Context) (issuer : Issuer)
    (σ : Session) : List Call → Option (Stage × String) → Session → Prop where
  | build {called cause τ}
      (hb : Attempt ctx (s.builder (s.request secrets issuer)) (s.opened issuer σ) called
        (.error cause) τ) :
      Course s secrets ctx issuer σ
        (if called then [(s.request secrets issuer).call] else []) (some (.build, cause)) τ
  | missing {called τ}
      (hb : Attempt ctx (s.builder (s.request secrets issuer)) (s.opened issuer σ) called
        (.ok none) τ) :
      Course s secrets ctx issuer σ [(s.request secrets issuer).call]
        (some (.build, "client builder returned no client")) τ
  | ping {called called' client cause τ τ'}
      (hb : Attempt ctx (s.builder (s.request secrets issuer)) (s.opened issuer σ) called
        (.ok (some client)) τ)
      (hp : Attempt ctx (client.ping ctx) (s.built issuer τ) called' (.error cause) τ') :
      Course s secrets ctx issuer σ
        ((s.request secrets issuer).call :: if called' then [.ping] else [])
        (some (.ping, cause)) τ'
  | verify {called called' called'' client operation cause τ τ' τ''}
      (hb : Attempt ctx (s.builder (s.request secrets issuer)) (s.opened issuer σ) called
        (.ok (some client)) τ)
      (hp : Attempt ctx (client.ping ctx) (s.built issuer τ) called' (.ok ()) τ')
      (hc : client.verify? = some operation)
      (hv : Attempt ctx (operation ctx) (s.reached issuer τ') called'' (.error cause) τ'') :
      Course s secrets ctx issuer σ
        ((s.request secrets issuer).call :: .ping :: if called'' then [.verify] else [])
        (some (.verify, cause)) τ''
  | verified {called called' called'' client operation τ τ' τ''}
      (hb : Attempt ctx (s.builder (s.request secrets issuer)) (s.opened issuer σ) called
        (.ok (some client)) τ)
      (hp : Attempt ctx (client.ping ctx) (s.built issuer τ) called' (.ok ()) τ')
      (hc : client.verify? = some operation)
      (hv : Attempt ctx (operation ctx) (s.reached issuer τ') called'' (.ok ()) τ'') :
      Course s secrets ctx issuer σ [(s.request secrets issuer).call, .ping, .verify] none τ''
  | skipped {called called' client τ τ'}
      (hb : Attempt ctx (s.builder (s.request secrets issuer)) (s.opened issuer σ) called
        (.ok (some client)) τ)
      (hp : Attempt ctx (client.ping ctx) (s.built issuer τ) called' (.ok ()) τ')
      (hc : client.verify? = none) :
      Course s secrets ctx issuer σ [(s.request secrets issuer).call, .ping] none τ'

variable {s : Setup} {secrets : SecretStore} {issuer : Issuer} {made made' : List Call}
  {stop stop' : Option (Stage × String)} {τ' : Session}

/-- Every setup takes a course. -/
theorem exists_course (s : Setup) (secrets : SecretStore) (ctx : Context) (issuer : Issuer)
    (σ : Session) : ∃ made stop τ, Course s secrets ctx issuer σ made stop τ := by
  obtain ⟨called, rb, τ, hb⟩ :=
    exists_attempt ctx (s.builder (s.request secrets issuer)) (s.opened issuer σ)
  rcases rb with cause | _ | client
  · exact ⟨_, _, _, .build hb⟩
  · exact ⟨_, _, _, .missing hb⟩
  obtain ⟨called', rp, τ', hp⟩ := exists_attempt ctx (client.ping ctx) (s.built issuer τ)
  rcases rp with cause | ⟨⟩
  · exact ⟨_, _, _, .ping hb hp⟩
  cases hc : client.verify? with
  | none => exact ⟨_, _, _, .skipped hb hp hc⟩
  | some operation =>
    obtain ⟨called'', rv, τ'', hv⟩ := exists_attempt ctx (operation ctx) (s.reached issuer τ')
    rcases rv with cause | ⟨⟩
    · exact ⟨_, _, _, .verify hb hp hc hv⟩
    · exact ⟨_, _, _, .verified hb hp hc hv⟩

/-- No setup takes two courses. -/
theorem Course.unique (h : Course s secrets ctx issuer σ made stop τ)
    (h' : Course s secrets ctx issuer σ made' stop' τ') :
    made = made' ∧ stop = stop' ∧ τ = τ' := by
  cases h <;> cases h' <;> grind [Attempt.unique]

/-- The calls of a course come in order, and each is made at most once. -/
theorem Course.made_isPrefix (h : Course s secrets ctx issuer σ made stop τ) :
    made <+: [(s.request secrets issuer).call, .ping, .verify] := by
  cases h with
  | build hb => split <;> simp
  | ping hb hp => split <;> simp
  | verify hb hp hc hv => split <;> simp
  | missing | verified | skipped => simp

/-! ## Verdicts -/

/-- The error `e` names the stage and the cause in each of its parts. -/
structure Names (backend : String) (stage : Stage) (cause : String) (e : SetupError) : Prop where
  code : e.code = match stage with
    | .build => "ERROR_BUILDING_CLIENT"
    | .ping => "ERROR_PINGING_API"
    | .verify => "ERROR_VERIFYING_CREDENTIALS"
  message : e.message = "Failed to setup " ++ backend ++ " issuer: " ++
    (match stage with
      | .build => "error building client: "
      | .ping => "error pinging " ++ backend ++ " API: "
      | .verify => "client.VerifyCredentials: ") ++ cause
  stage_eq : e.stage = stage
  cause_eq : e.cause = cause

/-- The verdict of a setup that stopped in a stage for a cause, or did not stop. -/
def Tells (backend : String) (stop : Option (Stage × String))
    (verdict : Except SetupError Unit) : Prop :=
  match stop with
  | none => verdict = .ok ()
  | some (stage, cause) => ∃ e, verdict = .error e ∧ Names backend stage cause e

theorem names_of (backend : String) (stage : Stage) (cause : String) :
    Names backend stage cause (SetupError.of backend stage cause) where
  code := by cases stage <;> rfl
  message := by cases stage <;> rfl
  stage_eq := rfl
  cause_eq := rfl

variable {recorder : Recorder} {f : Failure}

/-- A failed stage tells its cause, and makes no more calls. -/
theorem tells_fail {cause : String} (hf : f.cause = cause) (stage : Stage) :
    Tells s.backend (some (stage, cause)) (s.fail issuer recorder stage f τ).1.verdict ∧
      (s.fail issuer recorder stage f τ).2.calls = τ.calls := by
  subst hf
  exact ⟨⟨_, rfl, names_of s.backend stage f.cause⟩, rfl⟩

theorem tells_succeed : Tells s.backend none (s.succeed issuer recorder τ).1.verdict ∧
    (s.succeed issuer recorder τ).2.calls = τ.calls :=
  ⟨rfl, rfl⟩

/-- The verdict of a setup is that of its course, and so are its calls. -/
theorem Course.tells_run (h : Course s secrets ctx issuer σ made stop τ) :
    Tells s.backend stop (s.run secrets ctx issuer recorder σ).1.verdict ∧
      (s.run secrets ctx issuer recorder σ).2.calls = τ.calls := by
  rw [run_eq, build_eq]
  cases h with
  | build hb =>
    obtain ⟨f, hf, hcall⟩ := hb.bind_error accept
    rw [Action.onResult_of_error hcall]
    exact tells_fail hf .build
  | missing hb =>
    rw [Action.onResult_of_error (hb.bind_ok accept)]
    exact tells_fail (by decide) .build
  | ping hb hp =>
    obtain ⟨f, hf, hcall⟩ := hp.bind_error pure
    rw [Action.onResult_of_ok (hb.bind_ok accept), ping_eq, guarded_eq,
      Action.onResult_of_error hcall]
    exact tells_fail hf .ping
  | verify hb hp hc hv =>
    obtain ⟨f, hf, hcall⟩ := hv.bind_error pure
    rw [Action.onResult_of_ok (hb.bind_ok accept), ping_eq, guarded_eq,
      Action.onResult_of_ok (hp.bind_ok pure), verify_eq hc, guarded_eq,
      Action.onResult_of_error hcall]
    exact tells_fail hf .verify
  | verified hb hp hc hv =>
    rw [Action.onResult_of_ok (hb.bind_ok accept), ping_eq, guarded_eq,
      Action.onResult_of_ok (hp.bind_ok pure), verify_eq hc, guarded_eq,
      Action.onResult_of_ok (hv.bind_ok pure)]
    exact tells_succeed
  | skipped hb hp hc =>
    rw [Action.onResult_of_ok (hb.bind_ok accept), ping_eq, guarded_eq,
      Action.onResult_of_ok (hp.bind_ok pure), verify_of_none hc]
    exact tells_succeed

/-! ## Calls -/

/-- The setup with every call of its builder and of its clients noted. -/
def journaled (s : Setup) : Setup :=
  { s with builder := s.builder.journaled }

/-- The builder of a journaled setup is in the journal if and only if it was called, and
it builds journaled clients. -/
theorem Attempt.calls_builder {called : Bool} {r : Except String (Option Client)}
    (h : Attempt ctx (s.journaled.builder (s.journaled.request secrets issuer)) σ called r τ) :
    (τ.calls = σ.calls ++ if called then [(s.request secrets issuer).call] else []) ∧
      ∀ client, r = .ok (some client) → ∃ c : Client, client = c.journaled := by
  cases h with
  | canceled | expired => simp
  | failed _ h | failedMute _ h => exact ⟨(Builder.journaled_apply h).1, by simp⟩
  | returned _ h =>
    refine ⟨(Builder.journaled_apply h).1, fun client hclient => ?_⟩
    exact (Builder.journaled_apply h).2 client (by rw [Except.ok.inj hclient])

/-- A stage that returned was called. -/
theorem Attempt.called_of_ok {called : Bool} {x : α} (h : Attempt ctx op σ called (.ok x) τ) :
    called = true := by
  cases h with
  | returned => rfl

theorem Attempt.calls_ping {c : Client} {called : Bool} {r : Except String Unit}
    (h : Attempt ctx (c.journaled.ping ctx) σ called r τ) :
    τ.calls = σ.calls ++ if called then [.ping] else [] :=
  h.calls

theorem Attempt.calls_verify {c : Client} {operation : Context → Action Unit}
    (hc : c.journaled.verify? = some operation) {called : Bool} {r : Except String Unit}
    (h : Attempt ctx (operation ctx) σ called r τ) :
    τ.calls = σ.calls ++ if called then [.verify] else [] := by
  obtain ⟨verify, -, rfl⟩ := Option.map_eq_some_iff.1 hc
  exact h.calls

@[simp] theorem calls_opened (s : Setup) (issuer : Issuer) (σ : Session) :
    (s.opened issuer σ).calls = σ.calls := rfl

@[simp] theorem calls_built (s : Setup) (issuer : Issuer) (σ : Session) :
    (s.built issuer σ).calls = σ.calls := rfl

@[simp] theorem calls_reached (s : Setup) (issuer : Issuer) (σ : Session) :
    (s.reached issuer σ).calls = σ.calls := rfl

/-- The calls of the course of a journaled setup are the ones in the journal. -/
theorem Course.calls_eq (h : Course s.journaled secrets ctx issuer σ made stop τ) :
    τ.calls = σ.calls ++ made := by
  have hreq : s.journaled.request secrets issuer = s.request secrets issuer := rfl
  cases h with
  | build hb => exact hb.calls_builder.1
  | missing hb =>
    have hcalls := hb.calls_builder.1
    rwa [hb.called_of_ok] at hcalls
  | ping hb hp =>
    obtain ⟨hcalls, hclient⟩ := hb.calls_builder
    obtain ⟨c, rfl⟩ := hclient _ rfl
    rw [hp.calls_ping, calls_built, hcalls, hb.called_of_ok]
    simp [hreq]
  | verify hb hp hc hv =>
    obtain ⟨hcalls, hclient⟩ := hb.calls_builder
    obtain ⟨c, rfl⟩ := hclient _ rfl
    rw [hv.calls_verify hc, calls_reached, hp.calls_ping, calls_built, hcalls, hb.called_of_ok,
      hp.called_of_ok]
    simp [hreq]
  | verified hb hp hc hv =>
    obtain ⟨hcalls, hclient⟩ := hb.calls_builder
    obtain ⟨c, rfl⟩ := hclient _ rfl
    rw [hv.calls_verify hc, calls_reached, hp.calls_ping, calls_built, hcalls, hb.called_of_ok,
      hp.called_of_ok, hv.called_of_ok]
    simp [hreq]
  | skipped hb hp hc =>
    obtain ⟨hcalls, hclient⟩ := hb.calls_builder
    obtain ⟨c, rfl⟩ := hclient _ rfl
    rw [hp.calls_ping, calls_built, hcalls, hb.called_of_ok, hp.called_of_ok]
    simp [hreq]

/-! ## The course that is taken -/

/-- The setup takes one course only: it makes the calls `made`, which come in order and
each at most once, it stops as `stop` says, and its verdict tells where and why. -/
structure Takes (s : Setup) (secrets : SecretStore) (ctx : Context) (issuer : Issuer)
    (recorder : Recorder) (σ : Session) (made : List Call)
    (stop : Option (Stage × String)) : Prop where
  course : ∃ τ, Course s secrets ctx issuer σ made stop τ
  only : ∀ made' stop' τ, Course s secrets ctx issuer σ made' stop' τ →
    made' = made ∧ stop' = stop
  order : made <+: [(s.request secrets issuer).call, .ping, .verify]
  verdict : Tells s.backend stop (s.run secrets ctx issuer recorder σ).1.verdict

theorem Course.takes (h : Course s secrets ctx issuer σ made stop τ) :
    Takes s secrets ctx issuer recorder σ made stop where
  course := ⟨τ, h⟩
  only := fun _ _ _ h' => ⟨(h'.unique h).1, (h'.unique h).2.1⟩
  order := h.made_isPrefix
  verdict := h.tells_run.1

/-- **A setup stops at the first stage in trouble.**  Whatever the context, the builder
and the client do, the setup takes exactly one course, and its verdict names the stage
and the cause that the course names.  If the calls are noted, what is in the journal in
the end is what was there and the calls of the course: none of a stage that did not
start, and none after the stage that failed. -/
theorem run_takes_course (s : Setup) (secrets : SecretStore) (ctx : Context) (issuer : Issuer)
    (recorder : Recorder) (σ : Session) :
    (∃ made stop, Takes s secrets ctx issuer recorder σ made stop) ∧
      ∃ made stop, Takes s.journaled secrets ctx issuer recorder σ made stop ∧
        (s.journaled.run secrets ctx issuer recorder σ).2.calls = σ.calls ++ made := by
  constructor
  · obtain ⟨made, stop, τ, h⟩ := exists_course s secrets ctx issuer σ
    exact ⟨made, stop, h.takes⟩
  · obtain ⟨made, stop, τ, h⟩ := exists_course s.journaled secrets ctx issuer σ
    exact ⟨made, stop, h.takes, h.tells_run.2.trans h.calls_eq⟩

end Setup
end IssuerReadiness
