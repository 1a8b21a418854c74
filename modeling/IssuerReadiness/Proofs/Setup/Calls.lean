import IssuerReadiness.Proofs.Client.Records
import IssuerReadiness.Proofs.Setup.Stages

/-!
# The calls that a setup makes on its client

A setup makes two calls on its client at most, a ping and a check of credentials.
`Setup.pingCall?` and `Setup.verifyCall?` name them, with the time that they took and
whether they returned.  There is no ping if no client was built, or if the context was
done by then; there is no check of credentials if the ping failed, if the client cannot
check them, or if the context was done by then.

## Instrumented clients

A builder can be made to instrument the clients that it builds (`Builder.instrumented`).
The setup with that builder shadows the setup with the plain one, and what it puts on
record besides are these two calls.  This is carried from the stages to the whole: a stage
first, then what goes on from it.

* `Setup.pingCall?`, `Setup.verifyCall?`: the calls.
* `writeOnly_fail`, `writeOnly_succeed`: verdicts take no notice of the ledger.
* `shadows_guarded`, `shadows_verify`, `shadows_ping`, `shadows_run`: the stages, from the
  last one back to the whole setup.
-/

namespace IssuerReadiness

/-- The builder with the clients that it builds instrumented. -/
def Builder.instrumented (b : Builder) (metered : Bool) (logger : Logger) : Builder := fun req =>
  Option.map (Client.instrument · metered logger) <$> b req

namespace Setup

/-! ## Calls -/

/-- The call of an operation in a stage that starts in the session `σ`.  There is none if
the context is done. -/
def callOf (ctx : Context) (name : String) (operation : Context → Action Unit) (σ : Session) :
    Option Observation :=
  if ctx.isDone σ.moment then none else some (Action.observation name (operation ctx) σ)

/-- The call with which credentials are checked in a stage that starts in the session `σ`,
if the client can check them. -/
def checkOf (ctx : Context) (client : Client) (σ : Session) : Option Observation :=
  match client.verify? with
  | none => none
  | some operation => callOf ctx "verifyCredentials" operation σ

/-- The ping of a setup that starts in the session `σ`. -/
def pingCall? (s : Setup) (secrets : SecretStore) (ctx : Context) (issuer : Issuer)
    (σ : Session) : Option Observation :=
  match s.build secrets ctx issuer (s.opened issuer σ) with
  | (.error _, _) => none
  | (.ok client, τ) => callOf ctx "ping" client.ping (s.built issuer τ)

/-- The check of credentials of a setup that starts in the session `σ`. -/
def verifyCall? (s : Setup) (secrets : SecretStore) (ctx : Context) (issuer : Issuer)
    (σ : Session) : Option Observation :=
  match s.build secrets ctx issuer (s.opened issuer σ) with
  | (.error _, _) => none
  | (.ok client, τ) =>
      match guarded ctx client.ping (s.built issuer τ) with
      | (.error _, _) => none
      | (.ok _, τ) => checkOf ctx client (s.reached issuer τ)

/-- The calls of a setup, in order. -/
def calls (s : Setup) (secrets : SecretStore) (ctx : Context) (issuer : Issuer) (σ : Session) :
    List Observation :=
  (s.pingCall? secrets ctx issuer σ).toList ++ (s.verifyCall? secrets ctx issuer σ).toList

variable {s : Setup} {secrets : SecretStore} {ctx : Context} {issuer : Issuer}
  {recorder : Recorder} {client : Client} {counting metered : Bool} {logger : Logger}

/-! ## Verdicts -/

/-- The lines that tell of a change to the Ready condition. -/
def readyLines (issuer : Issuer) (status : ConditionStatus) (reason message : String)
    (σ : Session) : List Line :=
  let c := Condition.ready status reason message issuer.generation
  ((Condition.upsert issuer.conditions c σ.moment.wall).notes c.type).flatMap fun n =>
    σ.log.root.kept n.1 n.2

theorem snd_writeReady (issuer : Issuer) (status : ConditionStatus) (reason message : String)
    (σ : Session) :
    (writeReady issuer status reason message σ).2 =
      σ.withLedger (σ.ledger.add { lines := readyLines issuer status reason message σ }) := by
  unfold writeReady
  dsimp only
  rw [LogBook.noteAll_eq]
  rfl

/-- A failure is told in lines that do not depend on the ones before. -/
theorem writeOnly_fail (s : Setup) (issuer : Issuer) (recorder : Recorder) (stage : Stage)
    (cause : Failure) : WriteOnly false (s.fail issuer recorder stage cause) := by
  let e := SetupError.of s.backend stage cause.cause
  let text := "Issuer " ++ issuer.ns ++ "/" ++ issuer.name ++ " not ready (" ++ stage.name ++
    " stage): " ++ e.message
  refine .of_lines (fun σ => (s.fail issuer recorder stage cause σ).1)
    (fun σ => readyLines issuer .fails errorReason e.message σ ++ s.logger.kept .error text)
    (fun σ => congrArg (Prod.mk _) ?_) (fun _ _ => rfl) (fun _ _ => rfl)
  show (writeReady issuer .fails errorReason e.message σ).2.write s.logger .error text = _
  rw [snd_writeReady, Session.write_eq, Session.withLedger_withLedger, Session.ledger_withLedger,
    ← Ledger.add_append]
  rfl

theorem writeOnly_succeed (s : Setup) (issuer : Issuer) (recorder : Recorder) :
    WriteOnly false (s.succeed issuer recorder) := by
  let told (σ : Session) := writeReady issuer .holds s.startedText s.startedText σ
  let event (σ : Session) :=
    Event.of (told σ).1 .normal Event.readyReason s.verifiedText σ.moment.wall
  let eventLines (σ : Session) := (recorder.notes (event σ)).flatMap fun n =>
    recorder.logger.kept n.1 n.2
  let text := s.backend ++ " issuer " ++ issuer.ns ++ "/" ++ issuer.name ++ " is ready"
  refine .of_lines (fun σ => (s.succeed issuer recorder σ).1)
    (fun σ => readyLines issuer .holds s.startedText s.startedText σ ++
      (eventLines σ ++ s.logger.kept .info text))
    (fun σ => congrArg (Prod.mk _) ?_) (fun _ _ => rfl) (fun _ _ => rfl)
  have hevent : { (told σ).2 with log := (told σ).2.log.noteEvent recorder (event σ) } =
      (told σ).2.withLedger ((told σ).2.ledger.add { lines := eventLines σ }) := by
    rw [LogBook.noteEvent_eq]
    rfl
  show Session.write { (told σ).2 with log := (told σ).2.log.noteEvent recorder (event σ) }
    s.logger .info text = _
  rw [hevent, snd_writeReady, Session.write_eq, Session.withLedger_withLedger,
    Session.withLedger_withLedger, Session.ledger_withLedger, Session.ledger_withLedger,
    ← Ledger.add_append, ← Ledger.add_append]
  rfl

/-! ## Stages -/

/-- A stage whose operation is timed puts the call of the operation on record, if it is
called. -/
theorem shadows_guarded {operation : Context → Action Unit}
    (h : WriteOnly counting (operation ctx)) (name : String) (metered : Bool) (logger : Logger) :
    Shadows metered logger (guarded ctx operation)
      (guarded ctx fun ctx => (operation ctx).timed name metered logger) fun σ =>
        (callOf ctx name operation σ).toList := by
  refine (Shadows.afterCheck (.timed h name metered logger) ctx).congr fun σ => ?_
  unfold callOf
  cases ctx.isDone σ.moment <;> rfl

/-- The last stage of a setup with an instrumented client has the check of credentials on
record. -/
theorem shadows_verify (s : Setup) (ctx : Context) (issuer : Issuer) (recorder : Recorder)
    (hclient : client.WriteOnly counting) (metered : Bool) (logger : Logger) :
    Shadows metered logger (s.verify ctx issuer recorder client)
      (s.verify ctx issuer recorder (client.instrument metered logger)) fun σ =>
        (checkOf ctx client σ).toList := by
  cases hc : client.verify? with
  | none =>
    have hc' : (client.instrument metered logger).verify? = none := by
      rw [Client.instrument, hc]
      rfl
    have hskipped : ∀ c : Client, c.verify? = none → s.verify ctx issuer recorder c =
        fun σ => s.succeed issuer recorder (s.skipped σ) :=
      fun c hc => funext fun σ => verify_of_none hc σ
    rw [hskipped client hc, hskipped _ hc']
    refine (((writeOnly_succeed s issuer recorder).afterWrite s.logger .debug _).shadows metered
      logger).congr fun σ => ?_
    rw [checkOf, hc]
    rfl
  | some operation =>
    have hc' : (client.instrument metered logger).verify? =
        some fun ctx => (operation ctx).timed Client.verifyOperation metered logger := by
      rw [Client.instrument, hc]
      rfl
    rw [verify_eq hc, verify_eq hc']
    refine ((shadows_guarded (hclient.verify operation hc ctx) _ metered logger).onResult
      (writeOnly_fail s issuer recorder .verify) fun _ _ =>
        ((writeOnly_succeed s issuer recorder).afterWrite s.logger .debug _).shadows metered
          logger).congr fun σ => ?_
    rw [checkOf, hc]
    rcases hσ : guarded ctx operation σ with ⟨f | x, τ⟩
    · rw [Action.notedAfter_of_error hσ, List.append_nil]
      rfl
    · rw [Action.notedAfter_of_ok hσ, List.append_nil]
      rfl

/-- The stages after the first of a setup with an instrumented client have both calls on
record. -/
theorem shadows_ping (s : Setup) (ctx : Context) (issuer : Issuer) (recorder : Recorder)
    (hclient : client.WriteOnly counting) (metered : Bool) (logger : Logger) :
    Shadows metered logger (s.ping ctx issuer recorder client)
      (s.ping ctx issuer recorder (client.instrument metered logger)) fun σ =>
        (callOf ctx "ping" client.ping σ).toList ++
          Action.notedAfter (guarded ctx client.ping)
            (fun _ τ => (checkOf ctx client (s.reached issuer τ)).toList) σ := by
  have hverify := (shadows_verify s ctx issuer recorder hclient metered logger).afterWrite s.logger
    .debug (s.backend ++ " API reachable for issuer " ++ issuer.name)
  rw [ping_eq, ping_eq]
  exact (shadows_guarded (hclient.ping ctx) "ping" metered logger).onResult
    (writeOnly_fail s issuer recorder .ping) fun _ _ => hverify

/-- What is built with a builder of instrumented clients is the instrumented client. -/
theorem build_instrumented (s : Setup) (metered : Bool) (logger : Logger) :
    ({ s with builder := s.builder.instrumented metered logger } : Setup).build secrets ctx issuer =
      (s.build secrets ctx issuer >>= fun client =>
        pure (client.instrument metered logger)) := by
  have haccept : (fun client? : Option Client =>
      accept (client?.map (Client.instrument · metered logger))) =
        fun client? => accept client? >>= fun client => pure (client.instrument metered logger) := by
    funext client?
    cases client? <;> rfl
  rw [build_eq, build_eq]
  show (Action.check ctx >>= fun _ =>
    (Option.map (Client.instrument · metered logger) <$> s.builder (s.request secrets issuer)) >>=
      accept) = _
  simp only [map_eq_pure_bind, bind_assoc, pure_bind, haccept]

/-- The calls of a setup, from one stage to the next. -/
theorem calls_eq (s : Setup) (secrets : SecretStore) (ctx : Context) (issuer : Issuer)
    (σ : Session) :
    s.calls secrets ctx issuer σ =
      (s.build secrets ctx issuer).notedAfter (fun client τ =>
        (callOf ctx "ping" client.ping (s.built issuer τ)).toList ++
          Action.notedAfter (guarded ctx client.ping)
            (fun _ τ' => (checkOf ctx client (s.reached issuer τ')).toList) (s.built issuer τ))
        (s.opened issuer σ) := by
  unfold calls pingCall? verifyCall?
  rcases hbuild : s.build secrets ctx issuer (s.opened issuer σ) with ⟨f | client, τ⟩
  · rw [Action.notedAfter_of_error hbuild]
    rfl
  rw [Action.notedAfter_of_ok hbuild]
  dsimp only
  rcases hping : guarded ctx client.ping (s.built issuer τ) with ⟨f | x, τ'⟩
  · rw [Action.notedAfter_of_error hping]
    rfl
  · rw [Action.notedAfter_of_ok hping]

/-- A client is built from the answer of the builder. -/
theorem exists_of_build {client : Client} {σ : Session}
    (h : (s.build secrets ctx issuer σ).1 = .ok client) :
    (s.builder (s.request secrets issuer) σ).1 = .ok (some client) := by
  rw [build_eq, Action.check_bind_apply] at h
  cases hfailure : ctx.failure? σ.moment with
  | some f =>
    rw [hfailure] at h
    cases h
  | none =>
    rw [hfailure] at h
    dsimp only at h
    rcases hb : s.builder (s.request secrets issuer) σ with ⟨f | _ | _, τ⟩
    · rw [Action.bind_of_error hb] at h
      cases h
    · rw [Action.bind_of_ok hb] at h
      cases h
    · rw [Action.bind_of_ok hb] at h
      cases h
      rfl

/-- **A setup with instrumented clients does what it does without.**  What it puts on
record besides are the calls that it makes. -/
theorem shadows_run (s : Setup) (hb : s.builder.WriteOnly counting) (metered : Bool)
    (logger : Logger) (secrets : SecretStore) (ctx : Context) (issuer : Issuer)
    (recorder : Recorder) :
    Shadows metered logger (s.run secrets ctx issuer recorder)
      (({ s with builder := s.builder.instrumented metered logger } : Setup).run secrets ctx issuer
        recorder)
      (s.calls secrets ctx issuer) := by
  have hbuild : WriteOnly counting (s.build secrets ctx issuer) := by
    rw [build_eq]
    refine (WriteOnly.check ctx).bind fun _ => (hb.build _).bind fun client? => ?_
    cases client? with
    | none => exact .throw _
    | some client => exact .pure client
  have hping : ∀ client, (∃ σ, (s.build secrets ctx issuer σ).1 = .ok client) →
      Shadows metered logger
        (fun τ => s.ping ctx issuer recorder client (s.built issuer τ))
        (fun τ => s.ping ctx issuer recorder (client.instrument metered logger) (s.built issuer τ))
        fun τ => (callOf ctx "ping" client.ping (s.built issuer τ)).toList ++
          Action.notedAfter (guarded ctx client.ping)
            (fun _ τ' => (checkOf ctx client (s.reached issuer τ')).toList) (s.built issuer τ) := by
    rintro client ⟨σ, hσ⟩
    have hclient := hb.client _ σ client (exists_of_build hσ)
    exact (shadows_ping s ctx issuer recorder hclient metered logger).afterWrite s.logger .debug _
  have hplain : s.run secrets ctx issuer recorder = fun σ =>
      (s.build secrets ctx issuer).onResult (s.fail issuer recorder .build)
        (fun client τ => s.ping ctx issuer recorder client (s.built issuer τ))
        (s.opened issuer σ) := funext run_eq
  have hinstrumented : ({ s with builder := s.builder.instrumented metered logger } : Setup).run
      secrets ctx issuer recorder = fun σ =>
        (s.build secrets ctx issuer).onResult (s.fail issuer recorder .build)
          (fun client τ =>
            s.ping ctx issuer recorder (client.instrument metered logger) (s.built issuer τ))
          (s.opened issuer σ) := by
    funext σ
    rw [run_eq, build_instrumented, Action.onResult_bind_map]
    rfl
  rw [hplain, hinstrumented]
  exact ((((hbuild.shadows metered logger).onResult (writeOnly_fail s issuer recorder .build)
    hping).afterWrite s.logger .debug _)).congr fun σ => (calls_eq s secrets ctx issuer σ).symm

end Setup
end IssuerReadiness
