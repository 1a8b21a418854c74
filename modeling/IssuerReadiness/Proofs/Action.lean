import IssuerReadiness.Context
import IssuerReadiness.Session

/-!
# Operations, one step at a time

An `Action` is a function of the session, so that a composed operation opens from the
left: what its first step gave decides what it goes on with.  The lemmas below are the
only place where the layers under `Action` are looked through.

* `bind_of_ok`, `bind_of_error`: the first step of a composed operation.
* `check_of_live`, `check_of_failure`, `check_bind_apply`: a look at the context.
* `Action.onResult`: what goes on from an operation outside of `Action`, as a setup does.
-/

namespace IssuerReadiness

theorem Context.isDone_of_failure? {ctx : Context} {m : Moment} {f : Failure}
    (h : ctx.failure? m = some f) : ctx.isDone m = true := by
  rw [isDone_eq_isSome_err?]
  obtain ⟨ended, herr, -⟩ := Option.map_eq_some_iff.1 h
  rw [herr]
  rfl

namespace Action

variable {α β : Type} {σ τ : Session}

theorem bind_apply (a : Action α) (f : α → Action β) (σ : Session) :
    (a >>= f) σ = ExceptT.bindCont f (a σ).1 (a σ).2 := rfl

theorem bind_of_ok {a : Action α} {f : α → Action β} {x : α} (h : a σ = (.ok x, τ)) :
    (a >>= f) σ = f x τ := by
  rw [bind_apply, h]
  rfl

theorem bind_of_error {a : Action α} {f : α → Action β} {e : Failure}
    (h : a σ = (.error e, τ)) : (a >>= f) σ = (.error e, τ) := by
  rw [bind_apply, h]
  rfl

/-- A result that is given leaves the session alone. -/
theorem ofExcept_apply (r : Except Failure α) (σ : Session) :
    (MonadExcept.ofExcept r : Action α) σ = (r, σ) := by
  cases r <;> rfl

theorem get_apply (σ : Session) : (get : Action Session) σ = (.ok σ, σ) := rfl

theorem check_of_live {ctx : Context} (h : ctx.isDone σ.moment = false) :
    check ctx σ = (.ok (), σ) := by
  unfold check
  rw [bind_of_ok (get_apply σ), Context.failure?_eq_none_iff.2 h]
  rfl

theorem check_of_failure {ctx : Context} {f : Failure} (h : ctx.failure? σ.moment = some f) :
    check ctx σ = (.error f, σ) := by
  unfold check
  rw [bind_of_ok (get_apply σ), h]
  rfl

/-- An operation that starts with a look at the context fails there or goes on in the same
session. -/
theorem check_bind_apply (ctx : Context) (k : Unit → Action α) (σ : Session) :
    (check ctx >>= k) σ =
      match ctx.failure? σ.moment with
      | some f => (.error f, σ)
      | none => k () σ := by
  cases hfailure : ctx.failure? σ.moment with
  | some f => exact bind_of_error (check_of_failure hfailure)
  | none => exact bind_of_ok (check_of_live (Context.failure?_eq_none_iff.1 hfailure))

theorem withinClient_apply (a : Action α) (context : String) (σ : Session) :
    a.withinClient context σ = ((a σ).1.mapError (Failure.withinClient context), (a σ).2) := rfl

/-! ## Going on from a result -/

variable {ρ : Type}

/-- What becomes of a session if an operation is done first: `failed` goes on if it has
failed, and `next` if not. -/
def onResult (a : Action α) (failed : Failure → Session → ρ × Session)
    (next : α → Session → ρ × Session) : Session → ρ × Session := fun σ =>
  match a σ with
  | (.error e, τ) => failed e τ
  | (.ok x, τ) => next x τ

variable {failed : Failure → Session → ρ × Session}

theorem onResult_of_ok {a : Action α} {next : α → Session → ρ × Session} {x : α}
    (h : a σ = (.ok x, τ)) : a.onResult failed next σ = next x τ := by
  rw [onResult, h]

theorem onResult_of_error {a : Action α} {next : α → Session → ρ × Session} {e : Failure}
    (h : a σ = (.error e, τ)) : a.onResult failed next σ = failed e τ := by
  rw [onResult, h]

theorem bind_eq_onResult (a : Action α) (f : α → Action β) :
    (a >>= f : Action β) = a.onResult (fun e τ => (.error e, τ)) f := by
  funext σ
  rcases h : a σ with ⟨e | x, τ⟩
  · rw [bind_of_error h, onResult_of_error h]
  · rw [bind_of_ok h, onResult_of_ok h]

/-- An operation whose value is changed in the end goes on with the changed value. -/
theorem onResult_bind_map (a : Action α) (g : α → β) (next : β → Session → ρ × Session) :
    (a >>= fun x => pure (g x) : Action β).onResult failed next =
      a.onResult failed fun x => next (g x) := by
  funext σ
  rcases h : a σ with ⟨e | y, τ⟩
  · rw [onResult_of_error h, onResult_of_error (bind_of_error h)]
  · have hg : (a >>= fun x => pure (g x) : Action β) σ = (.ok (g y), τ) := by
      rw [bind_of_ok h]
      rfl
    rw [onResult_of_ok h, onResult_of_ok hg]

/-- An operation that ends with a fixed value goes on with that value. -/
theorem onResult_bind_pure (a : Action α) (x : β) (next : β → Session → ρ × Session) :
    (a >>= fun _ => pure x : Action β).onResult failed next =
      a.onResult failed fun _ => next x :=
  onResult_bind_map a (fun _ => x) next

end Action
end IssuerReadiness
