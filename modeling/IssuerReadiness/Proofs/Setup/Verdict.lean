import IssuerReadiness.Proofs.Condition.Upsert
import IssuerReadiness.Proofs.Setup.Stages

/-!
# The verdict of a setup

A setup tells its verdict three times: to its caller, in the Ready condition, and
through the recorder.  The three are written by different pieces of code, so that
they agree is a theorem, and it is the one of this module.

Every path through a setup ends in `Setup.fail` or in `Setup.succeed`
(`ends_run`), whatever the builder and the client do to the session on the way.  What
the two leave is stated without them, as `Failed` and `Succeeded`, with all texts
spelled out.

* `ReadyWritten`: of an issuer, only the Ready condition has changed.
* `Succeeded`, `Failed`: the two ways in which a setup ends.
* `run_succeeded_or_failed`: every run ends in exactly one of them.
-/

namespace IssuerReadiness
namespace Setup

/-- The issuer `after` is the issuer `before` with one Ready condition, written at the
time `now`, in the place of the first Ready condition of `before` or at the end;
nothing else has changed. -/
structure ReadyWritten (before after : Issuer) (status : ConditionStatus)
    (reason message : String) (now : Instant) : Prop where
  ready : Condition.OnlyEntry
    { type := "Ready"
      status := status
      reason := reason
      message := message
      lastTransition := some
        (Condition.since (Condition.find? "Ready" before.conditions) status now)
      observedGeneration := before.generation }
    before.conditions after.conditions
  rest : after = { before with conditions := after.conditions }

/-- A setup that ended well at the time `now`: the caller gets no error, the Ready
condition holds, and one event was recorded. -/
structure Succeeded (s : Setup) (issuer : Issuer) (recorder : Recorder) (now : Instant)
    (o : Outcome) : Prop where
  verdict : o.verdict = .ok ()
  status : ReadyWritten issuer o.issuer .holds (s.backend ++ " issuer started")
    (s.backend ++ " issuer started") now
  event : o.recorder = recorder.record
    { type := .normal
      reason := "Ready"
      message := "Verified issuer with " ++ s.backend ++ " server"
      kind := issuer.kind
      ns := issuer.ns
      name := issuer.name
      time := now }

/-- A setup that failed at the time `now`: the caller gets the error `e`, the Ready
condition fails with the message of that error, and the recorder is as it was. -/
structure Failed (issuer : Issuer) (recorder : Recorder) (now : Instant) (o : Outcome)
    (e : SetupError) : Prop where
  verdict : o.verdict = .error e
  status : ReadyWritten issuer o.issuer .fails "ErrorSetup" e.message now
  silent : o.recorder = recorder

/-! ## The two ends -/

/-- Writing the Ready condition changes nothing else of the issuer. -/
theorem readyWritten_writeReady (issuer : Issuer) (status : ConditionStatus)
    (reason message : String) (session : Session) :
    ReadyWritten issuer (writeReady issuer status reason message session).1 status reason message
      session.moment.wall where
  ready := Condition.onlyEntry_upsert issuer.conditions
    (Condition.ready status reason message issuer.generation) session.moment.wall
  rest := rfl

/-- The lines that tell of an event leave the time alone. -/
theorem succeeded_succeed (s : Setup) (issuer : Issuer) (recorder : Recorder)
    (session : Session) :
    Succeeded s issuer recorder (s.succeed issuer recorder session).2.moment.wall
      (s.succeed issuer recorder session).1 where
  verdict := rfl
  status := readyWritten_writeReady issuer .holds s.startedText s.startedText session
  event := rfl

/-- The error of a stage is the error that the caller gets. -/
theorem failed_fail (s : Setup) (issuer : Issuer) (recorder : Recorder) (stage : Stage)
    (cause : Failure) (session : Session) :
    Failed issuer recorder (s.fail issuer recorder stage cause session).2.moment.wall
      (s.fail issuer recorder stage cause session).1
      (SetupError.of s.backend stage cause.cause) where
  verdict := rfl
  status := readyWritten_writeReady issuer .fails errorReason
    (SetupError.of s.backend stage cause.cause).message session
  silent := rfl

/-- The result of a setup is that of one of the two calls that write a verdict, made
with the issuer and the recorder as they came in. -/
def Ends (s : Setup) (issuer : Issuer) (recorder : Recorder) (r : Outcome × Session) : Prop :=
  (∃ σ, r = s.succeed issuer recorder σ) ∨
    ∃ stage cause σ, r = s.fail issuer recorder stage cause σ

/-- What goes on from the result of a stage ends in a verdict if both of its ways do. -/
theorem ends_onResult {s : Setup} {issuer : Issuer} {recorder : Recorder} {α : Type}
    (a : Action α) {failed : Failure → Session → Outcome × Session}
    {next : α → Session → Outcome × Session}
    (hfailed : ∀ f τ, Ends s issuer recorder (failed f τ))
    (hnext : ∀ x τ, Ends s issuer recorder (next x τ)) (σ : Session) :
    Ends s issuer recorder (a.onResult failed next σ) := by
  rcases h : a σ with ⟨f | x, τ⟩
  · rw [Action.onResult_of_error h]
    exact hfailed f τ
  · rw [Action.onResult_of_ok h]
    exact hnext x τ

theorem ends_fail (s : Setup) (issuer : Issuer) (recorder : Recorder) (stage : Stage)
    (cause : Failure) (σ : Session) :
    Ends s issuer recorder (s.fail issuer recorder stage cause σ) :=
  Or.inr ⟨stage, cause, σ, rfl⟩

theorem ends_verify (s : Setup) (ctx : Context) (issuer : Issuer) (recorder : Recorder)
    (client : Client) (σ : Session) :
    Ends s issuer recorder (s.verify ctx issuer recorder client σ) := by
  cases hc : client.verify? with
  | none =>
    rw [verify_of_none hc]
    exact Or.inl ⟨_, rfl⟩
  | some operation =>
    rw [verify_eq hc]
    exact ends_onResult _ (ends_fail s issuer recorder .verify) (fun _ _ => Or.inl ⟨_, rfl⟩) σ

/-- Every path through a setup ends in one of the two calls that write a verdict. -/
theorem ends_run (s : Setup) (secrets : SecretStore) (ctx : Context) (issuer : Issuer)
    (recorder : Recorder) (σ : Session) :
    Ends s issuer recorder (s.run secrets ctx issuer recorder σ) := by
  rw [run_eq]
  refine ends_onResult _ (ends_fail s issuer recorder .build) (fun client τ => ?_) _
  rw [ping_eq]
  exact ends_onResult _ (ends_fail s issuer recorder .ping)
    (fun _ _ => ends_verify s ctx issuer recorder client _) _

/-! ## The verdict -/

/-- No outcome is a success and a failure. -/
theorem Succeeded.not_failed {s : Setup} {issuer : Issuer} {recorder : Recorder} {now : Instant}
    {o : Outcome} (h : Succeeded s issuer recorder now o) (e : SetupError) :
    ¬ Failed issuer recorder now o e := by
  intro hf
  have hverdict := h.verdict.symm.trans hf.verdict
  cases hverdict

/-- **The verdict is told the same three times.**  Whatever the issuer's conditions
were, and whatever the context, the builder and the client do, a setup ends in exactly
one of two ways: it succeeds, the Ready condition holds and one event was recorded, or
it fails with an error, the Ready condition fails with the message of just that error
and nothing was recorded.  Either way there is one Ready condition in the end, and the
rest of the issuer is as it was. -/
theorem run_succeeded_or_failed (s : Setup) (secrets : SecretStore) (ctx : Context)
    (issuer : Issuer) (recorder : Recorder) (session : Session) :
    let (o, after) := s.run secrets ctx issuer recorder session
    let succeeded := Succeeded s issuer recorder after.moment.wall o
    let failed := ∃ e, Failed issuer recorder after.moment.wall o e
    (succeeded ∧ ¬ failed) ∨ (failed ∧ ¬ succeeded) := by
  rcases ends_run s secrets ctx issuer recorder session with ⟨σ, hrun⟩ | ⟨stage, cause, σ, hrun⟩
  · have hs := succeeded_succeed s issuer recorder σ
    rw [hrun]
    exact Or.inl ⟨hs, fun ⟨e, he⟩ => hs.not_failed e he⟩
  · have hf := failed_fail s issuer recorder stage cause σ
    rw [hrun]
    exact Or.inr ⟨⟨_, hf⟩, fun hs => hs.not_failed _ hf⟩

end Setup
end IssuerReadiness
