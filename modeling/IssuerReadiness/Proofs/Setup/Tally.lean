import Mathlib.Algebra.Ring.Int.Defs
import IssuerReadiness.Proofs.Setup.Calls
import IssuerReadiness.Proofs.Setup.Verdict

/-!
# What a setup adds to the books

A setup whose clients are counted adds its calls to the metrics, and tells the recorder of
its success.  The two have to agree with the verdict: a setup succeeds if and only if it
has checked the credentials and this went well, and then, and only then, the recorder gets
one event.

## Statistics

Metrics keep few numbers of each operation, and add one call at a time.  Counted from
nothing, they are the number of the calls, the number of the failed ones and the sum of the
times that they took (`OperationStats.countAll`, `Tally`).

* `Metrics.get_observeAll`: the statistics of an operation are those of the calls that bear
  its name.
* `Action.Counts`, `Client.Counted`, `Builder.Counted`: what counts each call once.
* `Venafi.counted_builder`: Venafi clients are such.
* `tallied_run`, `seen_run`: what a setup does to the metrics and to the recorder.
-/

namespace IssuerReadiness

/-! ## Statistics -/

/-- The statistics after more calls. -/
def OperationStats.countAll (stats : OperationStats) (calls : List Observation) :
    OperationStats :=
  calls.foldl (fun stats o => stats.count o.us o.success) stats

theorem OperationStats.calls_countAll (stats : OperationStats) (calls : List Observation) :
    (stats.countAll calls).calls = stats.calls + calls.length := by
  induction calls generalizing stats with
  | nil => rfl
  | cons o calls ih => exact (ih _).trans (Nat.succ_add_eq_add_succ ..)

theorem OperationStats.failures_countAll (stats : OperationStats) (calls : List Observation) :
    (stats.countAll calls).failures = stats.failures + calls.countP fun o => !o.success := by
  induction calls generalizing stats with
  | nil => rfl
  | cons o calls ih =>
    have hone : (stats.count o.us o.success).failures =
        stats.failures + if (!o.success) = true then 1 else 0 := by
      unfold count
      cases o.success <;> rfl
    rw [List.countP_cons, Nat.add_comm (calls.countP _), ← Nat.add_assoc, ← hone]
    exact ih _

theorem OperationStats.totalUs_countAll (stats : OperationStats) (calls : List Observation) :
    (stats.countAll calls).totalUs = stats.totalUs + (calls.map Observation.us).sum := by
  induction calls generalizing stats with
  | nil => exact (Int.add_zero _).symm
  | cons o calls ih =>
    rw [List.map_cons, List.sum_cons, ← Int.add_assoc]
    exact ih _

/-- Of the calls that are counted, each operation has those that bear its name. -/
theorem Metrics.get_observeAll (m : Metrics) (calls : List Observation) (name : String) :
    (m.observeAll calls).get name =
      (m.get name).countAll (calls.filter fun o => o.operation == name) := by
  induction calls generalizing m with
  | nil => rfl
  | cons o calls ih =>
    have hrest := ih (m.observe o.operation o.us o.success)
    rw [get_observe] at hrest
    refine hrest.trans ?_
    by_cases hname : o.operation = name
    · rw [if_pos hname, List.filter_cons, if_pos (beq_iff_eq.2 hname)]
      rfl
    · rw [if_neg hname, List.filter_cons, if_neg fun h => hname (beq_iff_eq.1 h)]

/-- The statistics of an operation are those of the calls that it got. -/
structure Tally (stats : OperationStats) (got : List Observation) : Prop where
  calls : stats.calls = got.length
  failures : stats.failures = got.countP fun o => !o.success
  failures_le : stats.failures ≤ stats.calls
  total : stats.totalUs = (got.map Observation.us).sum

theorem tally_countAll (got : List Observation) : Tally (OperationStats.countAll {} got) got := by
  have hcalls : (OperationStats.countAll {} got).calls = got.length :=
    (OperationStats.calls_countAll {} got).trans (Nat.zero_add _)
  have hfailures : (OperationStats.countAll {} got).failures = got.countP fun o => !o.success :=
    (OperationStats.failures_countAll {} got).trans (Nat.zero_add _)
  refine ⟨hcalls, hfailures, ?_, (OperationStats.totalUs_countAll {} got).trans (Int.zero_add _)⟩
  rw [hcalls, hfailures]
  exact List.countP_le_length

/-! ## Events -/

/-- How many events a recorder has seen since it was drained last, and those that it has
lost before. -/
def Recorder.seen (r : Recorder) : Nat :=
  r.events.length + r.dropped

theorem Recorder.seen_record (r : Recorder) (e : Event) : (r.record e).seen = r.seen + 1 := by
  unfold record seen
  split
  · rfl
  · show (r.events ++ [e]).length + r.dropped = r.events.length + r.dropped + 1
    rw [List.length_append, List.length_singleton, Nat.add_right_comm]

/-! ## Operations that are counted -/

/-- Every call of the operation is counted under the name, and nothing else is. -/
def Action.Counts (name : String) (a : Action Unit) : Prop :=
  ∀ σ, (a σ).2.metrics = σ.metrics.observeAll [Action.observation name a σ]

/-- A client that can check its credentials, and both of whose operations are counted. -/
structure Client.Counted (c : Client) : Prop where
  ping : ∀ ctx, (c.ping ctx).Counts "ping"
  verify : ∃ operation, c.verify? = some operation ∧
    ∀ ctx, (operation ctx).Counts "verifyCredentials"

/-- Nothing is counted while a client is built, and its calls are counted from then on. -/
structure Builder.Counted (b : Builder) (req : BuildRequest) : Prop where
  build : ∀ σ, (b req σ).2.metrics = σ.metrics
  client : ∀ σ client, (b req σ).1 = .ok (some client) → client.Counted

/-- What counts no calls leaves the metrics as they are. -/
theorem WriteOnly.metrics_eq {ρ : Type} {f : Session → ρ × Session} (h : WriteOnly false f)
    (σ : Session) : (f σ).2.metrics = σ.metrics := by
  obtain ⟨r, hcounts, hr⟩ := h σ
  have hledger : f σ = ((f σ).1, (f σ).2.withLedger (σ.ledger.add r)) := hr σ.ledger
  rw [hledger]
  show σ.metrics.observeAll r.counts = σ.metrics
  rw [hcounts rfl]
  rfl

/-- A timed operation is counted if there is anything to count it in. -/
theorem Action.counts_timed {a : Action Unit} (h : WriteOnly false a) (name : String)
    (logger : Logger) : (Action.timed name true logger a).Counts name := by
  intro σ
  have hcall : Action.observation name (Action.timed name true logger a) σ =
      Action.observation name a σ := by
    unfold Action.observation
    rw [Action.timed_apply]
    rfl
  rw [hcall, Action.timed_apply]
  show (a σ).2.metrics.observeAll [Action.observation name a σ] = _
  rw [h.metrics_eq]

theorem Venafi.counted_client [Json.Library] (c : Setting) (logger : Logger) :
    ((client c).instrument true logger).Counted where
  ping := fun ctx => Action.counts_timed (writeOnly_ping c ctx) "ping" logger
  verify := ⟨_, rfl, fun ctx =>
    Action.counts_timed (writeOnly_verify c ctx) "verifyCredentials" logger⟩

theorem Venafi.counted_builder [Json.Library] [Certificate.Library] (userAgent : String)
    (connectTimeout : Int) {req : BuildRequest}
    (hmetered : req.metered = true) : (builder userAgent connectTimeout).Counted req := by
  have hbuilt : ∀ σ, (builder userAgent connectTimeout req σ).2.metrics = σ.metrics ∧
      ∀ client, (builder userAgent connectTimeout req σ).1 = .ok (some client) →
        client.Counted := by
    intro σ
    unfold builder
    cases Connection.resolve req.issuer req.secrets req.ns userAgent with
    | error f => exact ⟨rfl, nofun⟩
    | ok k =>
      refine ⟨rfl, fun client hclient => ?_⟩
      obtain rfl := Option.some.inj (Except.ok.inj hclient)
      rw [hmetered]
      exact counted_client _ req.logger
  exact ⟨fun σ => (hbuilt σ).1, fun σ => (hbuilt σ).2⟩

namespace Setup

/-! ## One setup -/

variable {s : Setup} {secrets : SecretStore} {ctx : Context} {issuer : Issuer}
  {recorder : Recorder} {client : Client} {σ : Session}

/-- What goes on from the session `σ` has the calls `noted` counted, and succeeds if and
only if the credentials were checked and this went well. -/
structure Tallied (noted : List Observation) (check : Option Observation) (σ : Session)
    (r : Outcome × Session) : Prop where
  metrics : r.2.metrics = σ.metrics.observeAll noted
  verdict : r.1.verdict = .ok () ↔ ∃ o, check = some o ∧ o.success = true

/-- A stage counts the call of its operation, and goes on if it has made the call and the
call has returned. -/
theorem counted_guarded {name : String} {operation : Context → Action Unit}
    (h : (operation ctx).Counts name) (σ : Session) :
    (guarded ctx operation σ).2.metrics =
        σ.metrics.observeAll (callOf ctx name operation σ).toList ∧
      ((guarded ctx operation σ).1 = .ok () ↔
        ∃ o, callOf ctx name operation σ = some o ∧ o.success = true) := by
  unfold callOf
  rw [guarded, Action.check_bind_apply]
  cases hfailure : ctx.failure? σ.moment with
  | some f =>
    rw [if_pos (Context.isDone_of_failure? hfailure)]
    exact ⟨rfl, nofun, nofun⟩
  | none =>
    have live : ctx.isDone σ.moment = false := Context.failure?_eq_none_iff.1 hfailure
    rw [live, if_neg Bool.false_ne_true]
    refine ⟨h σ, fun hok => ⟨_, rfl, ?_⟩, ?_⟩
    · show (operation ctx σ).1.toBool = true
      have hok : (operation ctx σ).1 = .ok () := hok
      rw [hok]
      rfl
    · rintro ⟨o, ho, hsuccess⟩
      cases ho
      have hsuccess : (operation ctx σ).1.toBool = true := hsuccess
      show (operation ctx σ).1 = .ok ()
      cases hresult : (operation ctx σ).1 with
      | error f => rw [hresult] at hsuccess; cases hsuccess
      | ok x => rfl

theorem tallied_verify (s : Setup) (issuer : Issuer) (recorder : Recorder)
    {operation : Context → Action Unit} (hc : client.verify? = some operation)
    (h : (operation ctx).Counts "verifyCredentials") (σ : Session) :
    Tallied (checkOf ctx client σ).toList (checkOf ctx client σ) σ
      (s.verify ctx issuer recorder client σ) := by
  obtain ⟨hmetrics, hverdict⟩ := counted_guarded h σ
  rw [verify_eq hc, checkOf, hc]
  dsimp only
  rcases hσ : guarded ctx operation σ with ⟨f | x, τ⟩
  · rw [hσ] at hmetrics hverdict
    rw [Action.onResult_of_error hσ]
    refine ⟨hmetrics, fun hok => ?_, fun hok => ?_⟩
    · cases hok
    · cases hverdict.2 hok
  · rw [hσ] at hmetrics hverdict
    rw [Action.onResult_of_ok hσ]
    exact ⟨hmetrics, fun _ => hverdict.1 rfl, fun _ => rfl⟩

/-- Nothing is counted while a client is built. -/
theorem metrics_build (hs : s.builder.Counted (s.request secrets issuer)) (ctx : Context)
    (σ : Session) : (s.build secrets ctx issuer σ).2.metrics = σ.metrics := by
  rw [build_eq, Action.check_bind_apply]
  cases ctx.failure? σ.moment with
  | some f => rfl
  | none =>
    have hbuild := hs.build σ
    rcases hb : s.builder (s.request secrets issuer) σ with ⟨f | client?, τ⟩
    · rw [hb] at hbuild
      dsimp only
      rw [Action.bind_of_error hb]
      exact hbuild
    · rw [hb] at hbuild
      dsimp only
      rw [Action.bind_of_ok hb]
      cases client? <;> exact hbuild

/-- A setup counts its calls, and succeeds if and only if it has checked the credentials
and this went well. -/
theorem tallied_run (s : Setup) (hs : s.builder.Counted (s.request secrets issuer))
    (ctx : Context) (recorder : Recorder) (σ : Session) :
    Tallied (s.calls secrets ctx issuer σ) (s.verifyCall? secrets ctx issuer σ) σ
      (s.run secrets ctx issuer recorder σ) := by
  have hbuilt := metrics_build hs ctx (s.opened issuer σ)
  rw [run_eq]
  unfold calls pingCall? verifyCall?
  rcases hbuild : s.build secrets ctx issuer (s.opened issuer σ) with ⟨f | client, τ⟩
  · rw [hbuild] at hbuilt
    rw [Action.onResult_of_error hbuild]
    exact ⟨hbuilt, nofun, nofun⟩
  rw [hbuild] at hbuilt
  rw [Action.onResult_of_ok hbuild, ping_eq]
  dsimp only
  have hclient := exists_of_build (congrArg Prod.fst hbuild)
  have hcounted := hs.client _ client hclient
  obtain ⟨hping, -⟩ := counted_guarded (hcounted.ping ctx) (s.built issuer τ)
  have hstart : (s.built issuer τ).metrics = σ.metrics := hbuilt
  rw [hstart] at hping
  rcases hguarded : guarded ctx client.ping (s.built issuer τ) with ⟨f | x, τ'⟩
  · rw [hguarded] at hping
    rw [Action.onResult_of_error hguarded, Option.toList_none, List.append_nil]
    exact ⟨hping, nofun, nofun⟩
  · rw [hguarded] at hping
    rw [Action.onResult_of_ok hguarded]
    obtain ⟨operation, hc, hcounts⟩ := hcounted.verify
    have hverify := tallied_verify s issuer recorder hc (hcounts ctx) (s.reached issuer τ')
    refine ⟨hverify.metrics.trans ?_, hverify.verdict⟩
    rw [Metrics.observeAll_append]
    exact congrArg (Metrics.observeAll · _) hping

/-- The recorder is told of a success in one event, and of a failure not at all. -/
theorem seen_run (s : Setup) (secrets : SecretStore) (ctx : Context) (issuer : Issuer)
    (recorder : Recorder) (σ : Session) :
    let o := (s.run secrets ctx issuer recorder σ).1
    o.recorder.seen = recorder.seen + if o.verdict.toBool then 1 else 0 := by
  dsimp only
  rcases ends_run s secrets ctx issuer recorder σ with ⟨σ', hrun⟩ | ⟨stage, cause, σ', hrun⟩
  · have h := succeeded_succeed s issuer recorder σ'
    rw [hrun, h.verdict, h.event]
    exact Recorder.seen_record ..
  · have h := failed_fail s issuer recorder stage cause σ'
    rw [hrun, h.verdict, h.silent]
    rfl

/-! The calls of a setup by name. -/

theorem operation_of_callOf {name : String} {operation : Context → Action Unit} {o : Observation}
    (h : callOf ctx name operation σ = some o) : o.operation = name := by
  unfold callOf at h
  split at h
  · cases h
  · cases h
    rfl

theorem operation_of_pingCall? {o : Observation} (h : s.pingCall? secrets ctx issuer σ = some o) :
    o.operation = "ping" := by
  unfold pingCall? at h
  split at h
  · cases h
  · exact operation_of_callOf h

theorem operation_of_verifyCall? {o : Observation}
    (h : s.verifyCall? secrets ctx issuer σ = some o) : o.operation = "verifyCredentials" := by
  unfold verifyCall? checkOf at h
  split at h
  · cases h
  split at h
  · cases h
  split at h
  · cases h
  · exact operation_of_callOf h

end Setup

end IssuerReadiness
