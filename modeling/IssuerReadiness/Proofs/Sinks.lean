import IssuerReadiness.Proofs.Client.Records
import IssuerReadiness.Proofs.Setup.Calls

/-!
# Where the lines of a setup go

No part of a setup opens a sink of its own.  The setup, the client and the recorder write
with loggers that they were given, and the changes of conditions are told with the root
logger.  So if all of these have the same sinks, then whatever a setup writes goes there and
to no other place: what is on a sink that they do not have was there before.

* `Session.AddsTo`: from one session to the next, lines are added for the same sinks only.
* `LogsTo`: so it is from every session whose root logger has these sinks.
* `LogsTo.onResult`: from the parts to the whole.
* `Venafi.logsTo_builder`, `Setup.logsTo_run`: clients and setups.
-/

namespace IssuerReadiness

variable {ρ : Type} {α β : Type} {sinks : List Sink} {σ τ υ : Session}

/-- A line goes where its logger writes to. -/
theorem Logger.sinks_of_mem_kept {logger : Logger} {level : Level} {text : String} {line : Line}
    (h : line ∈ logger.kept level text) : line.sinks = logger.sinks := by
  unfold kept at h
  split at h
  · rw [List.mem_singleton.1 h]
  · cases h

/-! ## From one session to another -/

/-- The root logger of `τ` has the sinks `sinks`, and what `τ` has more lines than `σ` was
written to these. -/
structure Session.AddsTo (sinks : List Sink) (σ τ : Session) : Prop where
  root : τ.log.root.sinks = sinks
  lines : ∃ added, τ.log.lines = σ.log.lines ++ added ∧ ∀ line ∈ added, line.sinks = sinks

namespace Session.AddsTo

theorem of_log_eq (hroot : σ.log.root.sinks = sinks) (h : τ.log = σ.log) :
    σ.AddsTo sinks τ where
  root := by rw [h, hroot]
  lines := ⟨[], by rw [h, List.append_nil], nofun⟩

theorem of_ledger {r : Records} (hroot : σ.log.root.sinks = sinks)
    (hr : ∀ line ∈ r.lines, line.sinks = sinks) :
    σ.AddsTo sinks (σ.withLedger (σ.ledger.add r)) where
  root := hroot
  lines := ⟨r.lines, rfl, hr⟩

theorem trans (h : σ.AddsTo sinks τ) (h' : τ.AddsTo sinks υ) : σ.AddsTo sinks υ where
  root := h'.root
  lines := by
    obtain ⟨added, hτ, hadded⟩ := h.lines
    obtain ⟨added', hυ, hadded'⟩ := h'.lines
    refine ⟨added ++ added', by rw [hυ, hτ, List.append_assoc], fun line hline => ?_⟩
    exact (List.mem_append.1 hline).elim (hadded line) (hadded' line)

theorem write {logger : Logger} (hroot : σ.log.root.sinks = sinks) (hlogger : logger.sinks = sinks)
    (level : Level) (text : String) : σ.AddsTo sinks (σ.write logger level text) := by
  rw [σ.write_eq]
  exact of_ledger hroot fun line hline => (Logger.sinks_of_mem_kept hline).trans hlogger

theorem lines_ne_nil (h : σ.AddsTo sinks τ) (hσ : σ.log.lines ≠ []) : τ.log.lines ≠ [] := by
  obtain ⟨added, hτ, -⟩ := h.lines
  rw [hτ]
  exact List.append_ne_nil_of_left_ne_nil hσ added

/-- What is on another sink was there before. -/
theorem linesTo_of_notMem {sink : Sink} (h : σ.AddsTo sinks τ) (hsink : sink ∉ sinks) :
    τ.log.linesTo sink = σ.log.linesTo sink := by
  obtain ⟨added, hτ, hadded⟩ := h.lines
  have hnone : added.filter (fun line => line.sinks.contains sink) = [] := by
    refine List.filter_eq_nil_iff.2 fun line hline => ?_
    rw [hadded line hline, List.contains_iff_mem]
    exact hsink
  unfold LogBook.linesTo
  rw [hτ, List.filter_append, hnone, List.append_nil]

/-- A sink that got every line gets all that are added. -/
theorem linesTo_of_mem {sink : Sink} (h : σ.AddsTo sinks τ) (hsink : sink ∈ sinks)
    (hσ : σ.log.linesTo sink = σ.log.lines) : τ.log.linesTo sink = τ.log.lines := by
  obtain ⟨added, hτ, hadded⟩ := h.lines
  have hall : added.filter (fun line => line.sinks.contains sink) = added := by
    refine List.filter_eq_self.2 fun line hline => ?_
    rw [hadded line hline, List.contains_iff_mem]
    exact hsink
  unfold LogBook.linesTo at hσ ⊢
  rw [hτ, List.filter_append, hσ, hall]

end Session.AddsTo

/-! ## Operations -/

/-- From every session whose root logger has the sinks `sinks`, lines are written to these
only. -/
def LogsTo (sinks : List Sink) (f : Session → ρ × Session) : Prop :=
  ∀ σ : Session, σ.log.root.sinks = sinks → σ.AddsTo sinks (f σ).2

namespace LogsTo

/-- What does not write at all. -/
theorem of_silent {f : Session → ρ × Session} (h : ∀ σ, (f σ).2.log = σ.log) : LogsTo sinks f :=
  fun σ hroot => .of_log_eq hroot (h σ)

theorem of_lines {f : Session → ρ × Session} (lines : Session → List Line)
    (h : ∀ σ, (f σ).2 = σ.withLedger (σ.ledger.add { lines := lines σ }))
    (hlines : ∀ σ, σ.log.root.sinks = sinks → ∀ line ∈ lines σ, line.sinks = sinks) :
    LogsTo sinks f := by
  intro σ hroot
  rw [h]
  exact .of_ledger hroot (hlines σ hroot)

theorem afterWrite {f : Session → ρ × Session} {logger : Logger} (h : LogsTo sinks f)
    (hlogger : logger.sinks = sinks) (level : Level) (text : String) :
    LogsTo sinks fun σ => f (σ.write logger level text) := by
  intro σ hroot
  have hwrite := Session.AddsTo.write hroot hlogger level text
  exact hwrite.trans (h _ hwrite.root)

theorem onResult {a : Action α} {failed : Failure → Session → ρ × Session}
    {next : α → Session → ρ × Session} (ha : LogsTo sinks a)
    (hfailed : ∀ e, LogsTo sinks (failed e))
    (hnext : ∀ x, (∃ σ, (a σ).1 = .ok x) → LogsTo sinks (next x)) :
    LogsTo sinks (a.onResult failed next) := by
  intro σ hroot
  have hfirst := ha σ hroot
  rcases haσ : a σ with ⟨e | x, τ⟩
  · rw [haσ] at hfirst
    rw [Action.onResult_of_error haσ]
    exact hfirst.trans (hfailed e τ hfirst.root)
  · rw [haσ] at hfirst
    rw [Action.onResult_of_ok haσ]
    exact hfirst.trans (hnext x ⟨σ, by rw [haσ]⟩ τ hfirst.root)

theorem bind {a : Action α} {k : α → Action β} (ha : LogsTo sinks a)
    (hk : ∀ x, LogsTo sinks (k x)) : LogsTo sinks (a >>= k : Action β) := by
  rw [Action.bind_eq_onResult]
  exact ha.onResult (fun _ => of_silent fun _ => rfl) fun x _ => hk x

theorem pure (x : α) : LogsTo sinks (Pure.pure x : Action α) :=
  of_silent fun _ => rfl

theorem throw (f : Failure) : LogsTo sinks (MonadExcept.throw f : Action α) :=
  of_silent fun _ => rfl

theorem ofExcept (r : Except Failure α) : LogsTo sinks (MonadExcept.ofExcept r : Action α) :=
  of_silent fun σ => by rw [Action.ofExcept_apply]

theorem check (ctx : Context) : LogsTo sinks (Action.check ctx) := by
  refine of_silent fun σ => ?_
  cases hfailure : ctx.failure? σ.moment with
  | some f => rw [Action.check_of_failure hfailure]
  | none => rw [Action.check_of_live (Context.failure?_eq_none_iff.1 hfailure)]

theorem log {logger : Logger} (hlogger : logger.sinks = sinks) (level : Level) (text : String) :
    LogsTo sinks (Action.log logger level text) :=
  fun _ hroot => .write hroot hlogger level text

theorem withinClient {a : Action α} (h : LogsTo sinks a) (context : String) :
    LogsTo sinks (a.withinClient context) := by
  intro σ hroot
  rw [Action.withinClient_apply]
  exact h σ hroot

theorem timed {a : Action Unit} {logger : Logger} (h : LogsTo sinks a)
    (hlogger : logger.sinks = sinks) (operation : String) (metered : Bool) :
    LogsTo sinks (a.timed operation metered logger) := by
  intro σ hroot
  have hinside := h σ hroot
  rw [Action.timed_apply]
  refine hinside.trans (.of_ledger hinside.root fun line hline => ?_)
  obtain ⟨o, -, hkept⟩ := List.mem_flatMap.1 hline
  exact (Logger.sinks_of_mem_kept hkept).trans hlogger

end LogsTo

/-! ## Clients -/

/-- The operations of a client write to the sinks `sinks` only. -/
structure Client.LogsTo (sinks : List Sink) (c : Client) : Prop where
  ping : ∀ ctx, IssuerReadiness.LogsTo sinks (c.ping ctx)
  verify : ∀ operation, c.verify? = some operation →
    ∀ ctx, IssuerReadiness.LogsTo sinks (operation ctx)

theorem Client.LogsTo.instrument {c : Client} {logger : Logger} (h : c.LogsTo sinks)
    (hlogger : logger.sinks = sinks) (metered : Bool) :
    (c.instrument metered logger).LogsTo sinks where
  ping := fun ctx => (h.ping ctx).timed hlogger _ metered
  verify := fun operation hoperation ctx => by
    obtain ⟨inside, hinside, rfl⟩ := Option.map_eq_some_iff.1 hoperation
    exact (h.verify inside hinside ctx).timed hlogger _ metered

/-- Given a logger with the sinks `sinks`, a builder writes to these only, and so do the
clients that it builds. -/
structure Builder.LogsTo (sinks : List Sink) (b : Builder) : Prop where
  build : ∀ req, req.logger.sinks = sinks → IssuerReadiness.LogsTo sinks (b req)
  client : ∀ req, req.logger.sinks = sinks → ∀ σ client, (b req σ).1 = .ok (some client) →
    client.LogsTo sinks

namespace Venafi

variable {c : Setting}

theorem logsTo_send (hc : c.logger.sinks = sinks) (q : Query) (ctx : Context)
    (t : Option Http.Transfer) : LogsTo sinks (send c q ctx t) := by
  have htransfer : LogsTo sinks (transfer c q ctx t) := .of_silent fun σ => by cases t <;> rfl
  exact htransfer.afterWrite hc .debug (q.method ++ " " ++ c.url q)

theorem logsTo_conclude (hc : c.logger.sinks = sinks) (q : Query)
    (judged : Except Failure Http.Response) : LogsTo sinks (conclude c q judged) := by
  cases judged with
  | error f => exact .throw f
  | ok response => exact (LogsTo.log hc .debug _).bind fun _ => .pure response

theorem logsTo_exchange (hc : c.logger.sinks = sinks) (ctx : Context) (q : Query) :
    LogsTo sinks (exchange c ctx q) := by
  have hnext : LogsTo sinks nextTransfer := .of_silent fun σ => by rw [nextTransfer_apply]
  refine (LogsTo.check ctx).bind fun _ => hnext.bind fun t => ?_
  split
  · exact .throw _
  split
  · exact .throw _
  refine (logsTo_send hc q ctx t).bind fun ending σ hroot => ?_
  exact logsTo_conclude hc q (judge c q ctx σ.moment ending) σ hroot

theorem logsTo_ping (hc : c.logger.sinks = sinks) (ctx : Context) : LogsTo sinks (ping c ctx) := by
  refine (logsTo_exchange hc ctx _).bind fun response => ?_
  split
  · exact .pure ()
  · exact .throw _

theorem logsTo_authenticate (hc : c.logger.sinks = sinks) (ctx : Context) (q : Query) :
    LogsTo sinks (authenticate c ctx q) := by
  refine (logsTo_exchange hc ctx q).bind fun response => ?_
  cases requireOk response with
  | error f => exact .throw f
  | ok _ => exact .pure response

theorem logsTo_verify [Json.Library] (hc : c.logger.sinks = sinks) (ctx : Context) :
    LogsTo sinks (verify c ctx) := by
  rcases unset_or_chosen c.connection with h | ⟨way, h⟩
  · rw [verify_of_unset h]
    exact .throw _
  · rw [verify_of_chosen h]
    exact ((logsTo_authenticate hc ctx _).bind fun _ => .ofExcept _).withinClient _

theorem logsTo_client [Json.Library] (hc : c.logger.sinks = sinks) : (client c).LogsTo sinks where
  ping := logsTo_ping hc
  verify := fun operation hoperation ctx => by
    cases hoperation
    exact logsTo_verify hc ctx

theorem logsTo_builder [Json.Library] [Certificate.Library] (userAgent : String)
    (connectTimeout : Int) : (builder userAgent connectTimeout).LogsTo sinks where
  build := fun req hreq => by
    unfold builder
    cases Connection.resolve req.issuer req.secrets req.ns userAgent with
    | error f => exact .throw f
    | ok k => exact (LogsTo.log hreq .debug _).bind fun _ => .pure _
  client := fun req hreq σ client hclient => by
    unfold builder at hclient
    cases hk : Connection.resolve req.issuer req.secrets req.ns userAgent with
    | error f =>
      rw [hk] at hclient
      cases hclient
    | ok k =>
      rw [hk] at hclient
      cases hclient
      exact (logsTo_client hreq).instrument hreq req.metered

end Venafi

/-! ## Setups -/

namespace Setup

variable {s : Setup} {recorder : Recorder} {client : Client}

theorem sinks_of_mem_readyLines {issuer : Issuer} {status : ConditionStatus}
    {reason message : String} {line : Line}
    (h : line ∈ readyLines issuer status reason message σ) : line.sinks = σ.log.root.sinks := by
  obtain ⟨n, -, hkept⟩ := List.mem_flatMap.1 h
  exact Logger.sinks_of_mem_kept hkept

theorem logsTo_writeReady (issuer : Issuer) (status : ConditionStatus) (reason message : String) :
    LogsTo sinks (writeReady issuer status reason message) :=
  .of_lines (readyLines issuer status reason message)
    (snd_writeReady issuer status reason message)
    fun _ hroot _ hline => (sinks_of_mem_readyLines hline).trans hroot

theorem logsTo_fail (hs : s.logger.sinks = sinks) (issuer : Issuer) (recorder : Recorder)
    (stage : Stage) (cause : Failure) : LogsTo sinks (s.fail issuer recorder stage cause) := by
  intro σ hroot
  have hready := logsTo_writeReady issuer .fails errorReason
    (SetupError.of s.backend stage cause.cause).message σ hroot
  exact hready.trans (.write hready.root hs .error _)

theorem logsTo_succeed (hs : s.logger.sinks = sinks) (hrecorder : recorder.logger.sinks = sinks)
    (issuer : Issuer) : LogsTo sinks (s.succeed issuer recorder) := by
  intro σ hroot
  have hready := logsTo_writeReady issuer .holds s.startedText s.startedText σ hroot
  generalize htold : writeReady issuer .holds s.startedText s.startedText σ = told at hready
  let e := Event.of told.1 .normal Event.readyReason s.verifiedText told.2.moment.wall
  have hevent : told.2.AddsTo sinks { told.2 with log := told.2.log.noteEvent recorder e } := by
    refine ⟨by rw [LogBook.noteEvent_eq]; exact hready.root, _,
      congrArg LogBook.lines (LogBook.noteEvent_eq ..), fun line hline => ?_⟩
    obtain ⟨n, -, hkept⟩ := List.mem_flatMap.1 hline
    exact (Logger.sinks_of_mem_kept hkept).trans hrecorder
  unfold succeed
  rw [htold]
  exact hready.trans (hevent.trans (.write hevent.root hs .info _))

theorem logsTo_guarded {operation : Context → Action Unit} {ctx : Context}
    (h : LogsTo sinks (operation ctx)) : LogsTo sinks (guarded ctx operation) :=
  (LogsTo.check ctx).bind fun _ => h

variable (hs : s.logger.sinks = sinks) (hrecorder : recorder.logger.sinks = sinks) (ctx : Context)
  (issuer : Issuer)

include hs hrecorder

theorem logsTo_verify (hclient : client.LogsTo sinks) :
    LogsTo sinks (s.verify ctx issuer recorder client) := by
  have hsucceed := logsTo_succeed hs hrecorder issuer
  cases hc : client.verify? with
  | none =>
    rw [funext (verify_of_none hc)]
    exact hsucceed.afterWrite hs .debug _
  | some operation =>
    rw [verify_eq hc]
    exact (logsTo_guarded (hclient.verify operation hc ctx)).onResult
      (logsTo_fail hs issuer recorder .verify) fun _ _ => hsucceed.afterWrite hs .debug _

theorem logsTo_ping (hclient : client.LogsTo sinks) :
    LogsTo sinks (s.ping ctx issuer recorder client) := by
  rw [ping_eq]
  exact (logsTo_guarded (hclient.ping ctx)).onResult (logsTo_fail hs issuer recorder .ping)
    fun _ _ => (logsTo_verify hs hrecorder ctx issuer hclient).afterWrite hs .debug _

/-- **A setup writes where its loggers do.** -/
theorem logsTo_run (hb : s.builder.LogsTo sinks) (secrets : SecretStore) :
    LogsTo sinks (s.run secrets ctx issuer recorder) := by
  have hbuild : LogsTo sinks (s.build secrets ctx issuer) := by
    rw [build_eq]
    refine (LogsTo.check ctx).bind fun _ => (hb.build _ hs).bind fun client? => ?_
    cases client? with
    | none => exact .throw _
    | some client => exact .pure client
  have hping : ∀ client, (∃ σ, (s.build secrets ctx issuer σ).1 = .ok client) →
      LogsTo sinks fun τ => s.ping ctx issuer recorder client (s.built issuer τ) := by
    rintro client ⟨σ, hσ⟩
    have hclient := hb.client _ hs σ client (exists_of_build hσ)
    exact (logsTo_ping hs hrecorder ctx issuer hclient).afterWrite hs .debug _
  have hstages := hbuild.onResult (logsTo_fail hs issuer recorder .build) hping
  rw [funext (run_eq (s := s))]
  exact hstages.afterWrite hs .debug _

end Setup
end IssuerReadiness
