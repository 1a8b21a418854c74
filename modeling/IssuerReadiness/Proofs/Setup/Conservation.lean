import Mathlib.Data.List.Basic
import IssuerReadiness.Proofs.Setup.Tally

/-!
# The books of a service balance

A service sets up issuers, one after the other, with Venafi clients.  All setups count
their calls in the same metrics and tell the same recorder of their success, and the events
are taken out of the recorder now and then.  Whatever becomes of the setups, the numbers
have to agree: each success has checked credentials and is told in one event, and each
call that was made is counted once, be it that it returns or that it fails.

## Turns

A service takes turns: a setup, of any issuer and with everything that a setup can meet, or
a drain.  What each setup did is kept in the history of the service, and the books are
compared with the history.  A single turn is a matter of `Setup.tallied_run` and
`Setup.seen_run`, and many turns follow by induction.

* `Service.run`, `Service.history`: many turns.
* `Service.metrics_run`, `Service.told_run`: what they do to the metrics and to the events.
* `Service.balanced_run`: the books of a service that has started with empty ones.
-/

namespace IssuerReadiness

/-! ## Services -/

/-- A setup with Venafi clients, and everything that it meets but for the metrics and the
recorder. -/
structure Visit where
  backend : String
  logger : Logger
  clusterNamespace : String
  userAgent : String
  connectTimeout : Int
  secrets : SecretStore
  ctx : Context
  issuer : Issuer
  session : Session

/-- What sets up the issuer of a visit.  Its calls are counted. -/
def Visit.setup [Json.Library] [Certificate.Library] (v : Visit) : Setup where
  backend := v.backend
  builder := Venafi.builder v.userAgent v.connectTimeout
  metered := true
  logger := v.logger
  clusterNamespace := v.clusterNamespace

/-- What a setup has done: how it ended, and its calls. -/
structure Played where
  outcome : Setup.Outcome
  ping? : Option Observation
  check? : Option Observation
  ping_operation : ∀ o, ping? = some o → o.operation = "ping"
  check_operation : ∀ o, check? = some o → o.operation = "verifyCredentials"
  /-- A success has checked the credentials, and a check that goes well is a success. -/
  verdict : outcome.verdict = .ok () ↔ ∃ o, check? = some o ∧ o.success = true

namespace Played

/-- The calls of a setup, in order. -/
def calls (p : Played) : List Observation :=
  p.ping?.toList ++ p.check?.toList

/-- Whether a setup has succeeded. -/
def succeeded (p : Played) : Bool :=
  p.outcome.verdict.toBool

theorem succeeded_eq (p : Played) : p.succeeded = (p.check?.map Observation.success).getD false := by
  have hverdict := p.verdict
  unfold succeeded
  cases hoverdict : p.outcome.verdict with
  | ok x =>
    obtain ⟨o, ho, hsuccess⟩ := hverdict.1 hoverdict
    rw [ho, Option.map_some, Option.getD_some, hsuccess]
    rfl
  | error e =>
    rw [hoverdict] at hverdict
    cases hcheck : p.check? with
    | none => rfl
    | some o =>
      cases hsuccess : o.success with
      | false => exact hsuccess.symm
      | true => exact nomatch hverdict.2 ⟨o, hcheck, hsuccess⟩

theorem filter_toList {o? : Option Observation} {own : String}
    (h : ∀ o, o? = some o → o.operation = own) (name : String) :
    o?.toList.filter (fun o => o.operation == name) = if own = name then o?.toList else [] := by
  cases o? with
  | none => split <;> rfl
  | some o =>
    rw [Option.toList_some, List.filter_cons, h o rfl]
    by_cases hname : own = name
    · rw [if_pos hname, if_pos (beq_iff_eq.2 hname)]
      rfl
    · rw [if_neg hname, if_neg fun h => hname (beq_iff_eq.1 h)]
      rfl

/-- The calls of a setup by the name of the operation. -/
theorem filter_calls (p : Played) (name : String) :
    p.calls.filter (fun o => o.operation == name) =
      (if "ping" = name then p.ping?.toList else []) ++
        if "verifyCredentials" = name then p.check?.toList else [] := by
  rw [calls, List.filter_append, filter_toList p.ping_operation, filter_toList p.check_operation]

end Played

/-- What the setups of a service share, and the events that were taken out so far. -/
structure Service where
  metrics : Metrics := {}
  recorder : Recorder
  drained : List Event := []

/-- What a service does next. -/
inductive Turn where
  | setUp (v : Visit)
  | drain

namespace Service

/-- How many events were told to a service: those that are still there, those that were
taken out, and those that were lost. -/
def told (svc : Service) : Nat :=
  svc.recorder.events.length + svc.drained.length + svc.recorder.dropped

section Turns

variable [Json.Library] [Certificate.Library]

/-- The result of a setup with the metrics and the recorder of a service. -/
def result (svc : Service) (v : Visit) : Setup.Outcome × Session :=
  v.setup.run v.secrets v.ctx v.issuer svc.recorder { v.session with metrics := svc.metrics }

theorem tallied_result (svc : Service) (v : Visit) :
    let σ : Session := { v.session with metrics := svc.metrics }
    Setup.Tallied (v.setup.calls v.secrets v.ctx v.issuer σ)
      (v.setup.verifyCall? v.secrets v.ctx v.issuer σ) σ (svc.result v) :=
  Setup.tallied_run v.setup (Venafi.counted_builder v.userAgent v.connectTimeout rfl) v.ctx
    svc.recorder _

/-- What a setup does that the service makes. -/
def play (svc : Service) (v : Visit) : Played where
  outcome := (svc.result v).1
  ping? := v.setup.pingCall? v.secrets v.ctx v.issuer { v.session with metrics := svc.metrics }
  check? := v.setup.verifyCall? v.secrets v.ctx v.issuer { v.session with metrics := svc.metrics }
  ping_operation := fun _ => Setup.operation_of_pingCall?
  check_operation := fun _ => Setup.operation_of_verifyCall?
  verdict := (svc.tallied_result v).verdict

/-- The service after one turn. -/
def turn (svc : Service) : Turn → Service
  | .setUp v =>
      let (o, session) := svc.result v
      { svc with metrics := session.metrics, recorder := o.recorder }
  | .drain =>
      let (events, recorder) := svc.recorder.drain
      { svc with recorder := recorder, drained := svc.drained ++ events }

/-- The service after many turns. -/
def run (svc : Service) (turns : List Turn) : Service :=
  turns.foldl turn svc

/-- What the setups of many turns did, in order. -/
def history (svc : Service) : List Turn → List Played
  | [] => []
  | .setUp v :: rest => svc.play v :: (svc.turn (.setUp v)).history rest
  | .drain :: rest => (svc.turn .drain).history rest

/-! One turn. -/

theorem metrics_setUp (svc : Service) (v : Visit) :
    (svc.turn (.setUp v)).metrics = svc.metrics.observeAll (svc.play v).calls :=
  (svc.tallied_result v).metrics

theorem told_setUp (svc : Service) (v : Visit) :
    (svc.turn (.setUp v)).told = svc.told + if (svc.play v).succeeded then 1 else 0 := by
  have hseen := Setup.seen_run v.setup v.secrets v.ctx v.issuer svc.recorder
    { v.session with metrics := svc.metrics }
  have htold : ∀ svc : Service, svc.told = svc.recorder.seen + svc.drained.length :=
    fun svc => Nat.add_right_comm ..
  rw [htold, htold, Nat.add_right_comm]
  exact congrArg (· + svc.drained.length) hseen

/-- A drain takes events from one place to another. -/
theorem told_drain (svc : Service) : (svc.turn .drain).told = svc.told := by
  show 0 + (svc.drained ++ svc.recorder.events).length + svc.recorder.dropped = svc.told
  rw [Nat.zero_add, List.length_append, Nat.add_comm svc.drained.length]
  rfl

/-! Many turns. -/

/-- The metrics count the calls of all setups, and no others. -/
theorem metrics_run (svc : Service) (turns : List Turn) :
    (svc.run turns).metrics = svc.metrics.observeAll ((svc.history turns).flatMap Played.calls) := by
  induction turns generalizing svc with
  | nil => rfl
  | cons turn rest ih =>
    have hrest : (svc.run (turn :: rest)).metrics = _ := ih (svc.turn turn)
    rw [hrest]
    cases turn with
    | setUp v => rw [metrics_setUp, history, List.flatMap_cons, Metrics.observeAll_append]
    | drain => rfl

/-- As many events were told as setups have succeeded. -/
theorem told_run (svc : Service) (turns : List Turn) :
    (svc.run turns).told = svc.told + (svc.history turns).countP Played.succeeded := by
  induction turns generalizing svc with
  | nil => rfl
  | cons turn rest ih =>
    have hrest : (svc.run (turn :: rest)).told = _ := ih (svc.turn turn)
    rw [hrest]
    cases turn with
    | setUp v => rw [told_setUp, history, List.countP_cons, Nat.add_comm (List.countP ..),
        Nat.add_assoc]
    | drain => rw [told_drain, history]

end Turns

end Service

/-- The setups that have succeeded are those whose check of credentials went well. -/
theorem Played.countP_succeeded (history : List Played) :
    history.countP Played.succeeded + (history.filterMap Played.check?).countP (fun o => !o.success) =
      (history.filterMap Played.check?).length := by
  have hsucceeded : history.countP Played.succeeded =
      (history.filterMap Played.check?).countP Observation.success := by
    rw [List.countP_filterMap]
    exact List.countP_congr fun p _ => by rw [p.succeeded_eq]
  have hfailed : (history.filterMap Played.check?).countP (fun o => !o.success) =
      (history.filterMap Played.check?).countP fun o => decide ¬o.success = true :=
    List.countP_congr fun o _ => by simp
  rw [hsucceeded, hfailed]
  exact (List.length_eq_countP_add_countP Observation.success).symm

namespace Service

/-- **The books balance.**  A service starts with empty metrics and an empty recorder and
takes any turns: setups of any issuers, with any secrets, contexts, clocks and networks,
and drains in between.  Then the pings that are counted are those of the setups that had a
client and came to their ping in time, and the checks of credentials are those of the
setups whose ping has returned and that came to their check in time; each is counted as a
failure if and only if it failed, and the time that is kept is the sum of their times.
There are as many successes as checks that did not fail, and as many as there are events,
still there, taken out or lost. -/
theorem balanced_run [Json.Library] [Certificate.Library] (capacity : Nat) (logger : Logger)
    (turns : List Turn) :
    let start : Service := { recorder := { capacity := capacity, logger := logger } }
    let after := start.run turns
    let history := start.history turns
    let successes := history.countP Played.succeeded
    let pings := after.metrics.get "ping"
    let checks := after.metrics.get "verifyCredentials"
    Tally pings (history.filterMap Played.ping?) ∧
      Tally checks (history.filterMap Played.check?) ∧
      (∀ name, "ping" ≠ name → "verifyCredentials" ≠ name →
        Tally (after.metrics.get name) []) ∧
      successes = checks.calls - checks.failures ∧
      successes =
        after.recorder.events.length + after.drained.length + after.recorder.dropped := by
  intro start after history successes pings checks
  have htally : ∀ name (own : Played → Option Observation),
      (∀ p : Played, p.calls.filter (fun o => o.operation == name) = (own p).toList) →
        Tally (after.metrics.get name) (history.filterMap own) := by
    intro name own hown
    have hmetrics : after.metrics = Metrics.observeAll {} (history.flatMap Played.calls) :=
      start.metrics_run turns
    rw [hmetrics, Metrics.get_observeAll, List.filter_flatMap, funext hown,
      ← List.filterMap_eq_flatMap_toList]
    exact tally_countAll _
  have hchecks : Tally checks (history.filterMap Played.check?) := by
    refine htally "verifyCredentials" Played.check? fun p => ?_
    rw [p.filter_calls, if_neg (by decide), if_pos rfl, List.nil_append]
  have hbalance : successes + checks.failures = checks.calls := by
    rw [hchecks.failures, hchecks.calls]
    exact Played.countP_succeeded history
  refine ⟨?_, hchecks, ?_, (Nat.sub_eq_of_eq_add hbalance.symm).symm, ?_⟩
  · refine htally "ping" Played.ping? fun p => ?_
    rw [p.filter_calls, if_pos rfl, if_neg (by decide), List.append_nil]
  · intro name hping hcheck
    have hother := htally name (fun _ => none) fun p => by
      rw [p.filter_calls, if_neg hping, if_neg hcheck]
      rfl
    rwa [List.filterMap_none] at hother
  · exact ((start.told_run turns).trans (Nat.zero_add _)).symm

end Service
end IssuerReadiness
