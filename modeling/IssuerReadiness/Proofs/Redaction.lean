import IssuerReadiness.Client.Instrumented
import IssuerReadiness.Proofs.Action
import IssuerReadiness.Proofs.Keyed

/-!
# Sessions with their requests redacted

Credentials have to leave the program in one place, the requests that are sent: in the
values of headers, and in the user name and the password that are posted.  Everything
else of a session is open to whoever reads the log, the metrics or the status, and so
is the rest of every request.

`Session.redacted` is a session without what credentials may be in.  Two operations
are `Alike` if nothing that is left tells them apart: started in sessions that are the
same but for what is redacted, they give the same result and leave sessions that are
again the same.  An operation that looks at no request is `Alike` to itself
(`Alike.of_redacts`), and what is composed of operations that are alike is alike
(`Alike.onResult`, `Alike.bind`).

* `Http.Request.redacted`, `Session.redacted`: what is left out.
* `observed`: the result of an operation, and the session that it leaves, redacted.
* `Alike`: operations that cannot be told apart.
-/

namespace IssuerReadiness

/-! ## What is left out -/

namespace Http

/-- The name of a header: what stands before its first colon. -/
def headerName (header : Bytes) : Bytes :=
  header.takeWhile (· != 0x3A)

/-- The name of a header is not changed by what is put behind the colon, be it a text
that ends early. -/
theorem headerName_beforeNul {name : Bytes} (hname : ∀ b ∈ name, b ≠ 0 ∧ b ≠ 0x3A)
    (rest : Bytes) : headerName (Bytes.beforeNul (name ++ 0x3A :: rest)) = name := by
  have hzero : ∀ b ∈ name, (b != 0) = true := fun b hb => bne_iff_ne.2 (hname b hb).1
  have hcolon : ∀ b ∈ name, (b != 0x3A) = true := fun b hb => bne_iff_ne.2 (hname b hb).2
  have hkept : ((0x3A : UInt8) :: rest).takeWhile (· != 0) = 0x3A :: rest.takeWhile (· != 0) :=
    List.takeWhile_cons_of_pos (by decide)
  unfold headerName Bytes.beforeNul
  rw [List.takeWhile_append_of_pos hzero, hkept, List.takeWhile_append_of_pos hcolon,
    List.takeWhile_cons_of_neg (by decide), List.append_nil]

/-- What is left of a string that is posted under a key. -/
def redactedUnder (key : String) (value : Bytes) : Bytes :=
  if key = "username" ∨ key = "password" then [] else value

/-- What is posted, without user name and password. -/
def Posted.redacted (body : Posted) : Posted :=
  body.map fun p => (p.1, redactedUnder p.1 p.2)

theorem redacted_ofList (members : List (String × Bytes)) :
    Posted.redacted (Keyed.ofList members) =
      Keyed.ofList (members.map fun p => (p.1, redactedUnder p.1 p.2)) :=
  (Keyed.ofList_map redactedUnder members).symm

/-- A request without the values of its headers, and without the user name and the
password of its body. -/
def Request.redacted (r : Request) : Request :=
  { r with headers := r.headers.map headerName, body := r.body.map Posted.redacted }

end Http

/-- A session with the requests that were sent redacted. -/
def Session.redacted (s : Session) : Session :=
  { s with network :=
      { s.network with requests := s.network.requests.map Http.Request.redacted } }

theorem Session.redacted_write (s : Session) (logger : Logger) (level : Level) (text : String) :
    (s.write logger level text).redacted = s.redacted.write logger level text := rfl

theorem Session.redacted_observe (s : Session) (metered : Bool) (logger : Logger)
    (operation : String) (start : Instant) (success : Bool) :
    (s.observe metered logger operation start success).redacted =
      s.redacted.observe metered logger operation start success := by
  cases metered <;> rfl

/-- Sessions that are the same but for what is redacted are at the same moment. -/
theorem Session.moment_eq {σ τ : Session} (h : σ.redacted = τ.redacted) :
    σ.moment = τ.moment :=
  (Session.mk.inj h).1

/-! ## Operations that cannot be told apart -/

variable {α β ρ : Type}

/-- What can be observed of an operation: its result, and the session that it leaves,
redacted. -/
def observed (r : ρ × Session) : ρ × Session :=
  (r.1, r.2.redacted)

/-- Two operations that cannot be told apart by what can be observed of them. -/
def Alike (f f' : Session → ρ × Session) : Prop :=
  ∀ σ τ : Session, σ.redacted = τ.redacted → observed (f σ) = observed (f' τ)

namespace Alike

/-- An operation that looks at nothing that is redacted is like itself. -/
theorem of_redacts {f : Session → ρ × Session} (h : ∀ σ, observed (f σ) = f σ.redacted) :
    Alike f f := by
  intro σ τ hστ
  rw [h σ, h τ, hστ]

/-- What goes on from the results of operations that are alike is alike. -/
theorem onResult {a a' : Action α} {failed failed' : Failure → Session → ρ × Session}
    {next next' : α → Session → ρ × Session} (ha : Alike a a')
    (hfailed : ∀ e, Alike (failed e) (failed' e)) (hnext : ∀ x, Alike (next x) (next' x)) :
    Alike (a.onResult failed next) (a'.onResult failed' next') := by
  intro σ τ hστ
  have hobserved := ha σ τ hστ
  unfold Action.onResult
  generalize a σ = r at hobserved ⊢
  generalize a' τ = r' at hobserved ⊢
  obtain ⟨e | x, σ'⟩ := r <;> obtain ⟨e' | x', τ'⟩ := r' <;>
    obtain ⟨hresult, hsession⟩ := Prod.mk.inj hobserved
  · cases hresult
    exact hfailed e σ' τ' hsession
  · cases hresult
  · cases hresult
  · cases hresult
    exact hnext x σ' τ' hsession

theorem bind {a a' : Action α} {f f' : α → Action β} (ha : Alike a a')
    (hf : ∀ x, Alike (f x) (f' x)) : Alike (a >>= f) (a' >>= f') := by
  rw [Action.bind_eq_onResult, Action.bind_eq_onResult]
  exact ha.onResult (fun _ => of_redacts fun _ => rfl) hf

theorem pure (x : α) : Alike (Pure.pure x : Action α) (Pure.pure x : Action α) :=
  of_redacts fun _ => rfl

theorem throw (e : Failure) :
    Alike (MonadExcept.throw e : Action α) (MonadExcept.throw e : Action α) :=
  of_redacts fun _ => rfl

theorem ofExcept (r : Except Failure α) :
    Alike (MonadExcept.ofExcept r : Action α) (MonadExcept.ofExcept r : Action α) := by
  cases r with
  | error e => exact throw e
  | ok x => exact pure x

theorem log (logger : Logger) (level : Level) (text : String) :
    Alike (Action.log logger level text) (Action.log logger level text) :=
  of_redacts fun _ => rfl

theorem afterWrite {f f' : Session → ρ × Session} (hf : Alike f f') {logger : Logger}
    {level : Level} {text : String} :
    Alike (fun σ => f (σ.write logger level text)) fun σ => f' (σ.write logger level text) := by
  intro σ τ hστ
  refine hf _ _ ?_
  rw [Session.redacted_write, Session.redacted_write, hστ]

/-- The moment is not redacted. -/
theorem moment {f f' : Session → Action α} (h : ∀ σ τ, σ.moment = τ.moment → Alike (f σ) (f' τ)) :
    Alike (get >>= f : Action α) (get >>= f' : Action α) :=
  fun σ τ hστ => h σ τ (Session.moment_eq hστ) σ τ hστ

theorem check (ctx : Context) : Alike (Action.check ctx) (Action.check ctx) := by
  refine moment fun σ τ hmoment => ?_
  rw [hmoment]
  cases ctx.failure? τ.moment with
  | none => exact pure ()
  | some f => exact throw f

theorem withinClient {a a' : Action α} (ha : Alike a a') (context : String) :
    Alike (a.withinClient context) (a'.withinClient context) := by
  intro σ τ hστ
  obtain ⟨hresult, hsession⟩ := Prod.mk.inj (ha σ τ hστ)
  refine Prod.ext ?_ hsession
  exact congrArg (Except.mapError (Failure.withinClient context)) hresult

/-- Counting an operation and telling how long it took shows no more of it than its
result and the moments when it starts and ends. -/
theorem timed {a a' : Action Unit} (ha : Alike a a') (operation : String) (metered : Bool)
    (logger : Logger) :
    Alike (a.timed operation metered logger) (a'.timed operation metered logger) := by
  intro σ τ hστ
  obtain ⟨hresult, hsession⟩ := Prod.mk.inj (ha σ τ hστ)
  refine Prod.ext hresult ?_
  show ((a σ).2.observe metered logger operation σ.moment.now (a σ).1.toBool).redacted =
    ((a' τ).2.observe metered logger operation τ.moment.now (a' τ).1.toBool).redacted
  rw [Session.redacted_observe, Session.redacted_observe, hsession, hresult,
    Session.moment_eq hστ]

end Alike
end IssuerReadiness
