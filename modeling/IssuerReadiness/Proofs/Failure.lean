import IssuerReadiness.Failure

/-!
# Values that may be failures

Readers and resolvers are composed in `Except`, and the first step that fails decides
the failure.  A composition that gives a value is taken apart with `bind_eq_ok_iff`, one
that fails with `bind_eq_error_iff`, and a composition is put together again with `ok_bind`;
nothing else looks through `Except`.

A property that all failures of the steps have (`FailsOnly`) is one that all failures of
the composition have.
-/

namespace IssuerReadiness

variable {α β : Type}

theorem bind_eq_ok_iff {x : Except Failure α} {f : α → Except Failure β} {b : β} :
    (x >>= f) = .ok b ↔ ∃ a, x = .ok a ∧ f a = .ok b := by
  cases x with
  | error e => exact ⟨fun h => (nomatch h), fun ⟨_, h, _⟩ => (nomatch h)⟩
  | ok a => exact ⟨fun h => ⟨a, rfl, h⟩, fun ⟨_, ha, h⟩ => Except.ok.inj ha ▸ h⟩

theorem bind_eq_error_iff {x : Except Failure α} {f : α → Except Failure β} {e : Failure} :
    (x >>= f) = .error e ↔ x = .error e ∨ ∃ a, x = .ok a ∧ f a = .error e := by
  cases x with
  | error e' =>
    constructor
    · intro h
      cases h
      exact Or.inl rfl
    · rintro (h | ⟨_, h, _⟩)
      · cases h
        rfl
      · cases h
  | ok a =>
    constructor
    · exact fun h => Or.inr ⟨a, rfl, h⟩
    · rintro (h | ⟨_, h, hf⟩)
      · cases h
      · cases h
        exact hf

theorem ok_bind (a : α) (f : α → Except Failure β) :
    ((.ok a : Except Failure α) >>= f) = f a := rfl

theorem map_eq_ok_iff {x : Except Failure α} {f : α → β} {b : β} :
    x.map f = .ok b ↔ ∃ a, x = .ok a ∧ f a = b := by
  cases x with
  | error e => exact ⟨fun h => (nomatch h), fun ⟨_, h, _⟩ => (nomatch h)⟩
  | ok a => exact ⟨fun h => ⟨a, rfl, Except.ok.inj h⟩,
      fun ⟨_, ha, h⟩ => congrArg Except.ok (Except.ok.inj ha ▸ h)⟩

theorem ite_bind {c : Prop} [Decidable c] (x y : Except Failure α) (f : α → Except Failure β) :
    (if c then x >>= f else y >>= f) = (if c then x else y) >>= f := by
  split <;> rfl

/-! ## The failures of a composition -/

/-- All failures of `x` satisfy `P`. -/
def FailsOnly (P : Failure → Prop) (x : Except Failure α) : Prop :=
  ∀ f, x = .error f → P f

namespace FailsOnly

variable {P Q : Failure → Prop} {x : Except Failure α}

theorem mono (h : FailsOnly P x) (hPQ : ∀ f, P f → Q f) : FailsOnly Q x :=
  fun f hf => hPQ f (h f hf)

theorem ok (a : α) : FailsOnly P (.ok a : Except Failure α) :=
  fun _ hf => nomatch hf

theorem error {f : Failure} (h : P f) : FailsOnly P (.error f : Except Failure α) := by
  intro g hg
  cases hg
  exact h

theorem bind_of_ok {f : α → Except Failure β} (hx : FailsOnly P x)
    (hf : ∀ a, x = .ok a → FailsOnly P (f a)) : FailsOnly P (x >>= f) := by
  cases x with
  | error e => exact error (hx e rfl)
  | ok a => exact hf a rfl

theorem bind {f : α → Except Failure β} (hx : FailsOnly P x) (hf : ∀ a, FailsOnly P (f a)) :
    FailsOnly P (x >>= f) :=
  hx.bind_of_ok fun a _ => hf a

theorem map (h : FailsOnly P x) (f : α → β) : FailsOnly P (x.map f) := by
  cases x with
  | error e => exact error (h e rfl)
  | ok a => exact ok (f a)

theorem ite {c : Prop} [Decidable c] {y : Except Failure α} (hx : FailsOnly P x)
    (hy : FailsOnly P y) : FailsOnly P (if c then x else y) := by
  split
  · exact hx
  · exact hy

/-- The failures of a list are those of its items. -/
theorem mapM {f : α → Except Failure β} {as : List α} (h : ∀ a ∈ as, FailsOnly P (f a)) :
    FailsOnly P (as.mapM f) := by
  induction as with
  | nil => exact ok []
  | cons a as ih =>
    rw [List.mapM_cons]
    have hrest := ih fun b hb => h b (List.mem_cons_of_mem a hb)
    exact (h a List.mem_cons_self).bind fun _ => hrest.bind fun _ => ok _

end FailsOnly

end IssuerReadiness
