import Mathlib.Data.List.Induction
import Mathlib.Logic.Relation
import IssuerReadiness.Proofs.Action

/-!
# Handles on a cancellation

A context is a handle.  Who holds one can copy it and give the copy away, and can cancel
it, which cancels all its copies, and the copies of which it is one; no other context is
touched.  What a handle says is asked for in four ways: whether it is done, why it is done,
with a failure if it is, and how much time is left.  The answers have to agree, since an
operation that starts after one of them goes on with another.

## Why tokens

Handles are compared by their history here: `Copied` says which handle was made as a copy of
which other one, and two handles are connected if copying leads from one to the other, in any
number of steps and in either direction.  That is not what a context knows of itself; it has a
token, and looks whether this was canceled.  The two notions meet because a token
is given out once (`token_lt`): a new context has a token that no handle has so far, and
that was not canceled yet.  Equal tokens then lead back to one handle, step by step
(`eqvGen_of_token_eq`), and the tokens that were canceled are those of handles that were
canceled (`mem_canceled_iff`).

* `Context.Consistent`: the answers of a context agree.
* `Handles`, `Handles.after`: many handles, and what is done with them.
* `Handles.isCanceled_iff`: which handles are canceled.
* `Handles.sharing_after`: all of this, after any steps.
-/

namespace IssuerReadiness

/-! ## The answers of a context -/

/-- The answers of a context at a moment agree. -/
structure Context.Consistent (ctx : Context) (m : Moment) : Prop where
  /-- It is done if it was canceled, or if it has a deadline that is reached. -/
  done_iff : ctx.isDone m = true ↔
    ctx.isCanceled m = true ∨ ∃ deadline, ctx.deadline = some deadline ∧ deadline ≤ m.now
  /-- It is done if and only if there is a reason. -/
  done_iff_err : ctx.isDone m = true ↔ ∃ reason, ctx.err? m = some reason
  /-- It is done if and only if an operation that is asked for then fails at once. -/
  done_iff_throws : ∀ σ : Session, σ.moment = m →
    (ctx.isDone m = true ↔ ∃ f, Action.check ctx σ = (.error f, σ))
  /-- The operation fails with the reason, and nothing happens if there is none. -/
  throws : ∀ σ : Session, σ.moment = m → ∀ f, Action.check ctx σ = (.error f, σ) →
    some f.message = (ctx.err? m).map Ended.text
  /-- If it was canceled then this is the reason, whatever its deadline. -/
  canceled : ctx.isCanceled m = true → (ctx.err? m).map Ended.text = some "context canceled"
  /-- The reason is the deadline otherwise. -/
  expired : ctx.isCanceled m = false → ∀ reason, ctx.err? m = some reason →
    reason.text = "context deadline exceeded"
  /-- There is a time left if and only if there is a deadline. -/
  remaining_isSome : (ctx.remaining? m).isSome = ctx.deadline.isSome
  /-- The time that is left is not negative, and none is left once the deadline is reached. -/
  remaining : ∀ deadline ms, ctx.deadline = some deadline → ctx.remaining? m = some ms →
    0 ≤ ms ∧ (deadline ≤ m.now → ms = 0) ∧ (0 < ms → m.now < deadline)

namespace Context

variable {ctx : Context} {m : Moment}

theorem isExpired_iff :
    ctx.isExpired m = true ↔ ∃ deadline, ctx.deadline = some deadline ∧ deadline ≤ m.now := by
  unfold isExpired
  cases ctx.deadline with
  | none => exact iff_of_false Bool.false_ne_true nofun
  | some d =>
    constructor
    · exact fun h => ⟨d, rfl, of_decide_eq_true h⟩
    · rintro ⟨deadline, hdeadline, hle⟩
      cases hdeadline
      exact decide_eq_true hle

theorem err?_of_isCanceled (h : ctx.isCanceled m = true) : ctx.err? m = some .canceled :=
  if_pos h

theorem eq_deadlineExceeded_of_err? (h : ctx.isCanceled m = false) {reason : Ended}
    (hreason : ctx.err? m = some reason) : reason = .deadlineExceeded := by
  rw [err?, h, if_neg Bool.false_ne_true] at hreason
  split at hreason
  · exact (Option.some.inj hreason).symm
  · cases hreason

/-- An operation that is asked for fails with the reason if there is one. -/
theorem check_eq (ctx : Context) (σ : Session) :
    Action.check ctx σ =
      match ctx.err? σ.moment with
      | some reason => (.error reason.failure, σ)
      | none => (.ok (), σ) := by
  cases hreason : ctx.err? σ.moment with
  | some reason => exact Action.check_of_failure (by rw [failure?, hreason]; rfl)
  | none =>
    refine Action.check_of_live ?_
    rw [isDone_eq_isSome_err?, hreason]
    rfl

/-- The whole milliseconds up to a deadline that is reached are none, and a deadline up to
which there are some is not reached. -/
theorem max_tdiv_millisecond (left : Int) :
    0 ≤ max 0 (left.tdiv Moment.millisecond) ∧
      (left ≤ 0 → max 0 (left.tdiv Moment.millisecond) = 0) ∧
      (0 < max 0 (left.tdiv Moment.millisecond) → 0 < left) := by
  have hreached : left ≤ 0 → max 0 (left.tdiv Moment.millisecond) = 0 := fun h =>
    Int.max_eq_left (Int.le_trans (Int.tdiv_le_tdiv (by decide) h) (Int.le_of_eq (Int.zero_tdiv _)))
  refine ⟨Int.le_max_left .., hreached, fun hpos => ?_⟩
  by_contra hle
  exact absurd (hreached (Int.not_lt.1 hle)) (Int.ne_of_gt hpos)

theorem consistent (ctx : Context) (m : Moment) : ctx.Consistent m := by
  have hdone : ctx.isDone m = true ↔ ∃ reason, ctx.err? m = some reason := by
    rw [isDone_eq_isSome_err?, Option.isSome_iff_exists]
  exact {
    done_iff := by rw [isDone, Bool.or_eq_true, isExpired_iff]
    done_iff_err := hdone
    done_iff_throws := by
      rintro σ rfl
      rw [hdone, check_eq]
      cases ctx.err? σ.moment with
      | some reason => exact iff_of_true ⟨reason, rfl⟩ ⟨reason.failure, rfl⟩
      | none => exact iff_of_false nofun nofun
    throws := by
      rintro σ rfl f hf
      rw [check_eq] at hf
      cases hreason : ctx.err? σ.moment with
      | some reason =>
        rw [hreason] at hf
        cases hf
        rfl
      | none =>
        rw [hreason] at hf
        cases hf
    canceled := fun h => by rw [err?_of_isCanceled h]; rfl
    expired := fun h reason hreason => by rw [eq_deadlineExceeded_of_err? h hreason]; rfl
    remaining_isSome := Option.isSome_map
    remaining := by
      intro deadline ms hdeadline hms
      rw [remaining?, hdeadline] at hms
      cases hms
      obtain ⟨hnonneg, hreached, hleft⟩ := max_tdiv_millisecond (deadline - m.now)
      exact ⟨hnonneg, fun h => hreached (Int.sub_nonpos_of_le h),
        fun h => Int.lt_of_sub_pos (hleft h)⟩ }

/-- A context that is done stays so as time goes on and more contexts are canceled. -/
theorem isDone_mono {m' : Moment} (hnow : m.now ≤ m'.now) (hcanceled : m.canceled ⊆ m'.canceled)
    (h : ctx.isDone m = true) : ctx.isDone m' = true := by
  rw [(ctx.consistent m).done_iff] at h
  rw [(ctx.consistent m').done_iff]
  rcases h with h | ⟨deadline, hdeadline, hle⟩
  · exact .inl (List.contains_iff_mem.2 (hcanceled (List.contains_iff_mem.1 h)))
  · exact .inr ⟨deadline, hdeadline, Int.le_trans hle hnow⟩

end Context

/-! ## Handles -/

/-- The moment, and the handles made so far; a handle is known by its place. -/
structure Handles where
  moment : Moment
  held : List Context := []

namespace Handles

/-- What can be done with handles. -/
inductive Step where
  | background
  | withTimeout (ms : Int)
  | withDeadline (deadline : Instant)
  | copy (handle : Nat)
  | cancel (handle : Nat)
  /-- The clock moves, forward or backward. -/
  | elapse (ns : Int)

/-- One more handle. -/
def hold (w : Handles) (made : Context × Moment) : Handles :=
  { moment := made.2, held := w.held ++ [made.1] }

/-- The handles after one step.  Nothing is done with a handle that was not made. -/
def step (w : Handles) : Step → Handles
  | .background => w.hold (w.moment.issue none)
  | .withTimeout ms => w.hold (w.moment.withTimeout ms)
  | .withDeadline deadline => w.hold (w.moment.issue (some deadline))
  | .copy handle =>
      match w.held[handle]? with
      | some ctx => w.hold (ctx, w.moment)
      | none => w
  | .cancel handle =>
      match w.held[handle]? with
      | some ctx => { w with moment := w.moment.cancel ctx }
      | none => w
  | .elapse ns => { w with moment := { w.moment with now := w.moment.now + ns } }

/-- The handles after many steps, of which the first one is made at some time. -/
def after (now : Instant) (steps : List Step) : Handles :=
  steps.foldl step { moment := { now := now } }

/-- One of the steps has made the second handle as a copy of the first one. -/
def Copied (now : Instant) (steps : List Step) (source target : Nat) : Prop :=
  ∃ before, before ++ [.copy source] <+: steps ∧ source < (after now before).held.length ∧
    target = (after now before).held.length

/-- One of the steps has canceled the handle. -/
def Canceled (now : Instant) (steps : List Step) (handle : Nat) : Prop :=
  ∃ before, before ++ [.cancel handle] <+: steps ∧ handle < (after now before).held.length

/-! ### One step -/

/-- What a step does to the handles: there are the same as before, or there is a new one with
a new token, or a copy of one that was there. -/
theorem held_step (w : Handles) (s : Step) :
    ((w.step s).held = w.held ∧ (w.step s).moment.issued = w.moment.issued) ∨
    (∃ deadline, (w.step s).held = w.held ++ [⟨w.moment.issued, deadline⟩] ∧
      (w.step s).moment.issued = w.moment.issued + 1) ∨
    (∃ source ctx, s = .copy source ∧ w.held[source]? = some ctx ∧
      (w.step s).held = w.held ++ [ctx] ∧ (w.step s).moment.issued = w.moment.issued) := by
  cases s with
  | background => exact .inr (.inl ⟨none, rfl, rfl⟩)
  | withTimeout ms => exact .inr (.inl ⟨some _, rfl, rfl⟩)
  | withDeadline deadline => exact .inr (.inl ⟨some deadline, rfl, rfl⟩)
  | copy handle =>
    cases hctx : w.held[handle]? with
    | some ctx => exact .inr (.inr ⟨handle, ctx, rfl, hctx, by rw [step, hctx]; exact ⟨rfl, rfl⟩⟩)
    | none => exact .inl (by rw [step, hctx]; exact ⟨rfl, rfl⟩)
  | cancel handle => exact .inl (by rw [step]; cases w.held[handle]? <;> exact ⟨rfl, rfl⟩)
  | elapse ns => exact .inl ⟨rfl, rfl⟩

theorem held_prefix_step (w : Handles) (s : Step) : w.held <+: (w.step s).held := by
  rcases w.held_step s with ⟨h, -⟩ | ⟨deadline, h, -⟩ | ⟨source, ctx, -, -, h, -⟩
  · exact h ▸ List.prefix_refl _
  · rw [h]
    exact List.prefix_append ..
  · rw [h]
    exact List.prefix_append ..

/-- A step cancels the token of the handle that it cancels, and no other. -/
theorem mem_canceled_step (w : Handles) (s : Step) (token : Nat) :
    token ∈ (w.step s).moment.canceled ↔ token ∈ w.moment.canceled ∨
      ∃ handle ctx, s = .cancel handle ∧ w.held[handle]? = some ctx ∧ ctx.token = token := by
  cases s with
  | cancel handle =>
    cases hctx : w.held[handle]? with
    | some ctx =>
      rw [step, hctx]
      show token ∈ ctx.token :: w.moment.canceled ↔ _
      rw [List.mem_cons, or_comm]
      refine or_congr Iff.rfl ⟨fun h => ⟨handle, ctx, rfl, hctx, h.symm⟩, ?_⟩
      rintro ⟨handle', ctx', hhandle, hctx', htoken⟩
      cases hhandle
      cases hctx.symm.trans hctx'
      exact htoken.symm
    | none =>
      rw [step, hctx]
      refine (or_iff_left ?_).symm
      rintro ⟨handle', ctx', hhandle, hctx', -⟩
      cases hhandle
      cases hctx.symm.trans hctx'
  | copy handle =>
    have hmoment : (w.step (.copy handle)).moment = w.moment := by
      rw [step]
      cases w.held[handle]? <;> rfl
    rw [hmoment]
    exact (or_iff_left nofun).symm
  | background | withTimeout | withDeadline | elapse => exact (or_iff_left nofun).symm

theorem now_le_step {w : Handles} {s : Step} (h : ∀ ns, s = .elapse ns → 0 ≤ ns) :
    w.moment.now ≤ (w.step s).moment.now := by
  cases s with
  | elapse ns => exact Int.le_add_of_nonneg_right (h ns rfl)
  | copy handle | cancel handle =>
    rw [step]
    cases w.held[handle]? <;> exact Int.le_refl _
  | background | withTimeout | withDeadline => exact Int.le_refl _

/-! ### Many steps -/

variable {now : Instant} {steps : List Step} {g h : Nat} {ctx : Context}

theorem after_append_singleton (now : Instant) (steps : List Step) (s : Step) :
    after now (steps ++ [s]) = (after now steps).step s :=
  List.foldl_append

theorem getElem?_of_isPrefix {l l' : List Context} (hkept : l <+: l') (hctx : l[g]? = some ctx) :
    l'[g]? = some ctx := by
  obtain ⟨more, rfl⟩ := hkept
  rw [List.getElem?_append_left (List.getElem?_eq_some_iff.1 hctx).1, hctx]

theorem held_prefix_after (now : Instant) (steps more : List Step) :
    (after now steps).held <+: (after now (steps ++ more)).held := by
  induction more using List.reverseRecOn with
  | nil => exact (List.append_nil steps).symm ▸ List.prefix_refl _
  | append_singleton more s ih =>
    rw [← List.append_assoc, after_append_singleton]
    exact ih.trans (held_prefix_step ..)

/-- One of the steps was this one, at a time when something held: it was one of the earlier
steps, or it is the last one and this holds before it. -/
theorem exists_before_append_singleton {P : List Step → Prop} {s t : Step} :
    (∃ before, before ++ [t] <+: steps ++ [s] ∧ P before) ↔
      (∃ before, before ++ [t] <+: steps ∧ P before) ∨ (s = t ∧ P steps) := by
  constructor
  · rintro ⟨before, hbefore, hP⟩
    rcases List.prefix_concat_iff.1 hbefore with hlast | hearlier
    · obtain ⟨rfl, rfl⟩ := List.append_singleton_inj.1 hlast
      exact .inr ⟨rfl, hP⟩
    · exact .inl ⟨before, hearlier, hP⟩
  · rintro (⟨before, hearlier, hP⟩ | ⟨rfl, hP⟩)
    · exact ⟨before, hearlier.trans (List.prefix_append ..), hP⟩
    · exact ⟨steps, List.prefix_refl _, hP⟩

/-- The last step has made a copy, or the copy was there before. -/
theorem copied_append_singleton {s : Step} :
    Copied now (steps ++ [s]) g h ↔ Copied now steps g h ∨
      (s = .copy g ∧ g < (after now steps).held.length ∧ h = (after now steps).held.length) :=
  exists_before_append_singleton

/-- The last step has canceled the handle, or one before has done so. -/
theorem canceled_append_singleton {s : Step} :
    Canceled now (steps ++ [s]) g ↔ Canceled now steps g ∨
      (s = .cancel g ∧ g < (after now steps).held.length) :=
  exists_before_append_singleton

/-- A handle and its copy are the same context. -/
theorem getElem?_of_copied (hcopied : Copied now steps g h) :
    (after now steps).held[g]? = (after now steps).held[h]? := by
  obtain ⟨before, ⟨more, rfl⟩, hmade, rfl⟩ := hcopied
  obtain ⟨ctx, hctx⟩ : ∃ ctx, (after now before).held[g]? = some ctx :=
    ⟨_, List.getElem?_eq_getElem hmade⟩
  have hcopy : (after now (before ++ [.copy g])).held = (after now before).held ++ [ctx] := by
    rw [after_append_singleton, step, hctx]
    rfl
  have hkept := held_prefix_after now (before ++ [.copy g]) more
  rw [hcopy] at hkept
  rw [getElem?_of_isPrefix ((List.prefix_append ..).trans hkept) hctx,
    getElem?_of_isPrefix hkept List.getElem?_concat_length]

/-- Handles that are connected by copying are the same context. -/
theorem getElem?_of_eqvGen (hconnected : Relation.EqvGen (Copied now steps) g h) :
    (after now steps).held[g]? = (after now steps).held[h]? := by
  induction hconnected with
  | rel source target hcopied => exact getElem?_of_copied hcopied
  | refl handle => rfl
  | symm g h _ ih => exact ih.symm
  | trans f g h _ _ ih ih' => exact ih.trans ih'

/-- The tokens of all handles were given out. -/
theorem token_lt (hctx : ctx ∈ (after now steps).held) :
    ctx.token < (after now steps).moment.issued := by
  induction steps using List.reverseRecOn generalizing ctx with
  | nil => cases hctx
  | append_singleton steps s ih =>
    rw [after_append_singleton] at hctx ⊢
    rcases (after now steps).held_step s with ⟨hheld, hissued⟩ | ⟨deadline, hheld, hissued⟩ |
      ⟨source, made, -, hsource, hheld, hissued⟩
    · rw [hheld] at hctx
      rw [hissued]
      exact ih hctx
    · rw [hheld, List.mem_append, List.mem_singleton] at hctx
      rw [hissued]
      rcases hctx with hctx | rfl
      · exact Nat.lt_succ_of_lt (ih hctx)
      · exact Nat.lt_succ_self _
    · rw [hheld, List.mem_append, List.mem_singleton] at hctx
      rw [hissued]
      rcases hctx with hctx | rfl
      · exact ih hctx
      · exact ih (List.mem_of_getElem? hsource)

theorem getElem?_append_singleton {l : List Context} {made : Context} :
    (l ++ [made])[g]? = some ctx ↔ l[g]? = some ctx ∨ (g = l.length ∧ made = ctx) := by
  rcases Nat.lt_trichotomy g l.length with hlt | rfl | hgt
  · rw [List.getElem?_append_left hlt]
    exact (or_iff_left fun h => Nat.ne_of_lt hlt h.1).symm
  · rw [List.getElem?_concat_length, List.getElem?_eq_none (Nat.le_refl _)]
    simp
  · have hlength : (l ++ [made]).length ≤ g := by
      rw [List.length_append]
      exact hgt
    rw [List.getElem?_eq_none hlength, List.getElem?_eq_none (Nat.le_of_lt hgt)]
    simp [Nat.ne_of_gt hgt]

/-- Handles with one token are connected by copying: all of them go back to the handle for
which it was given out. -/
theorem eqvGen_of_token_eq {ctx' : Context} (hg : (after now steps).held[g]? = some ctx)
    (hh : (after now steps).held[h]? = some ctx') (htoken : ctx.token = ctx'.token) :
    Relation.EqvGen (Copied now steps) g h := by
  induction steps using List.reverseRecOn generalizing g h ctx ctx' with
  | nil => cases hg
  | append_singleton steps s ih =>
    have hearlier : ∀ {g h}, Relation.EqvGen (Copied now steps) g h →
        Relation.EqvGen (Copied now (steps ++ [s])) g h :=
      Relation.EqvGen.mono (fun _ _ hcopied => copied_append_singleton.2 (.inl hcopied)) _ _
    rw [after_append_singleton] at hg hh
    rcases (after now steps).held_step s with ⟨hheld, -⟩ | ⟨deadline, hheld, -⟩ |
      ⟨source, made, rfl, hsource, hheld, -⟩
    · rw [hheld] at hg hh
      exact hearlier (ih hg hh htoken)
    · rw [hheld, getElem?_append_singleton] at hg hh
      rcases hg with hg | ⟨rfl, rfl⟩ <;> rcases hh with hh | ⟨rfl, rfl⟩
      · exact hearlier (ih hg hh htoken)
      · exact absurd htoken (Nat.ne_of_lt (token_lt (List.mem_of_getElem? hg)))
      · exact absurd htoken.symm (Nat.ne_of_lt (token_lt (List.mem_of_getElem? hh)))
      · exact .refl _
    · have hcopied : Copied now (steps ++ [.copy source]) source (after now steps).held.length :=
        copied_append_singleton.2 (.inr ⟨rfl, (List.getElem?_eq_some_iff.1 hsource).1, rfl⟩)
      rw [hheld, getElem?_append_singleton] at hg hh
      rcases hg with hg | ⟨rfl, rfl⟩ <;> rcases hh with hh | ⟨rfl, rfl⟩
      · exact hearlier (ih hg hh htoken)
      · exact (hearlier (ih hg hsource htoken)).trans _ _ _ (.rel _ _ hcopied)
      · exact (Relation.EqvGen.rel _ _ hcopied).symm.trans _ _ _
          (hearlier (ih hsource hh htoken))
      · exact .refl _

theorem Canceled.lt_length (hcanceled : Canceled now steps g) :
    g < (after now steps).held.length := by
  obtain ⟨before, ⟨more, rfl⟩, hmade⟩ := hcanceled
  have hkept := held_prefix_after now before (.cancel g :: more)
  rw [List.append_assoc]
  exact Nat.lt_of_lt_of_le hmade hkept.length_le

/-- The canceled tokens are those of the handles that were canceled. -/
theorem mem_canceled_iff (token : Nat) :
    token ∈ (after now steps).moment.canceled ↔ ∃ handle ctx, Canceled now steps handle ∧
      (after now steps).held[handle]? = some ctx ∧ ctx.token = token := by
  induction steps using List.reverseRecOn with
  | nil =>
    refine iff_of_false List.not_mem_nil ?_
    rintro ⟨handle, ctx, -, hctx, -⟩
    cases hctx
  | append_singleton steps s ih =>
    have hkept := (after now steps).held_prefix_step s
    -- A handle that was there before the last step is still there, and the same.
    have hsame : ∀ {handle ctx}, handle < (after now steps).held.length →
        (((after now steps).step s).held[handle]? = some ctx ↔
          (after now steps).held[handle]? = some ctx) := by
      intro handle ctx hmade
      obtain ⟨more, hmore⟩ := hkept
      rw [← hmore, List.getElem?_append_left hmade]
    rw [after_append_singleton, mem_canceled_step, ih]
    constructor
    · rintro (⟨handle, ctx, hcanceled, hctx, htoken⟩ | ⟨handle, ctx, rfl, hctx, htoken⟩)
      · exact ⟨handle, ctx, canceled_append_singleton.2 (.inl hcanceled),
          getElem?_of_isPrefix hkept hctx, htoken⟩
      · have hmade := (List.getElem?_eq_some_iff.1 hctx).1
        exact ⟨handle, ctx, canceled_append_singleton.2 (.inr ⟨rfl, hmade⟩),
          getElem?_of_isPrefix hkept hctx, htoken⟩
    · rintro ⟨handle, ctx, hcanceled, hctx, htoken⟩
      rcases canceled_append_singleton.1 hcanceled with hcanceled | ⟨rfl, hmade⟩
      · exact .inl ⟨handle, ctx, hcanceled, (hsame hcanceled.lt_length).1 hctx, htoken⟩
      · exact .inr ⟨handle, ctx, rfl, (hsame hmade).1 hctx, htoken⟩

/-- A handle is canceled if and only if a handle was canceled that is connected to it by
copying. -/
theorem isCanceled_iff (hctx : (after now steps).held[h]? = some ctx) :
    ctx.isCanceled (after now steps).moment = true ↔
      ∃ g, Relation.EqvGen (Copied now steps) g h ∧ Canceled now steps g := by
  rw [Context.isCanceled, List.contains_iff_mem, mem_canceled_iff]
  constructor
  · rintro ⟨g, ctx', hcanceled, hctx', htoken⟩
    exact ⟨g, eqvGen_of_token_eq hctx' hctx htoken, hcanceled⟩
  · rintro ⟨g, hconnected, hcanceled⟩
    exact ⟨g, ctx, hcanceled, (getElem?_of_eqvGen hconnected).trans hctx, rfl⟩

/-- As long as the clock does not move backward, time goes on and cancellations stay. -/
theorem moment_after_mono (now : Instant) (steps : List Step) {more : List Step}
    (hmore : ∀ ns, .elapse ns ∈ more → 0 ≤ ns) :
    (after now steps).moment.now ≤ (after now (steps ++ more)).moment.now ∧
      (after now steps).moment.canceled ⊆ (after now (steps ++ more)).moment.canceled := by
  induction more using List.reverseRecOn with
  | nil =>
    rw [List.append_nil]
    exact ⟨Int.le_refl _, List.Subset.refl _⟩
  | append_singleton more s ih =>
    obtain ⟨hnow, hcanceled⟩ := ih fun ns hns => hmore ns (List.mem_append_left _ hns)
    rw [← List.append_assoc, after_append_singleton]
    refine ⟨Int.le_trans hnow (now_le_step ?_), fun token htoken => ?_⟩
    · rintro ns rfl
      exact hmore ns (List.mem_append_right _ (List.mem_singleton_self _))
    · exact (mem_canceled_step ..).2 (.inl (hcanceled htoken))

/-- What holds of a handle on a context after some steps. -/
structure Sharing (now : Instant) (steps : List Step) (h : Nat) (ctx : Context) : Prop where
  /-- It is canceled if and only if a handle was canceled that is connected to it by copying,
  in any number of steps and in either direction. -/
  canceled_iff : ctx.isCanceled (after now steps).moment = true ↔
    ∃ g, Relation.EqvGen (Copied now steps) g h ∧ Canceled now steps g
  /-- Its answers agree with each other. -/
  consistent : ctx.Consistent (after now steps).moment
  /-- All handles that are connected to it by copying give the same answers. -/
  copies : ∀ g, Relation.EqvGen (Copied now steps) g h → (after now steps).held[g]? = some ctx
  /-- It stays the same context whatever is done, and if it is done, it stays so as long as the
  clock does not move backward. -/
  stays : ∀ more, (after now (steps ++ more)).held[h]? = some ctx ∧
    ((∀ ns, .elapse ns ∈ more → 0 ≤ ns) → ctx.isDone (after now steps).moment = true →
      ctx.isDone (after now (steps ++ more)).moment = true)

/-- **Handles share exactly their own cancellation.**  Contexts are made with and without a
deadline, copied and canceled in any order, while the clock moves.  At every moment each handle
is canceled if and only if this was done to it, to its copies, or to the handles it was copied
from, and what it says of being done, of the reason, of failures and of the time that is left
is the same thing said in four ways. -/
theorem sharing_after (now : Instant) (steps : List Step) (h : Nat) (ctx : Context)
    (hctx : (after now steps).held[h]? = some ctx) : Sharing now steps h ctx where
  canceled_iff := isCanceled_iff hctx
  consistent := ctx.consistent _
  copies := fun _ hconnected => (getElem?_of_eqvGen hconnected).trans hctx
  stays := fun more => by
    refine ⟨getElem?_of_isPrefix (held_prefix_after now steps more) hctx, fun hmore hdone => ?_⟩
    obtain ⟨hnow, hcanceled⟩ := moment_after_mono now steps hmore
    exact Context.isDone_mono hnow hcanceled hdone

/-- Two copies of one context, of which the first is canceled, and a context that has
expired. -/
def family : List Step :=
  [.background, .copy 0, .copy 0, .withTimeout 20, .cancel 1, .elapse 30000000]

theorem sharing_family :
    (after 0 family).held[2]? = some ⟨0, none⟩ ∧ Sharing 0 family 2 ⟨0, none⟩ :=
  ⟨rfl, sharing_after 0 family 2 ⟨0, none⟩ rfl⟩

example :
    let w := after 0 family
    w.held.map (fun ctx => (ctx.err? w.moment).map Ended.text) =
        [some "context canceled", some "context canceled", some "context canceled",
          some "context deadline exceeded"] ∧
      w.held.map (fun ctx => ctx.remaining? w.moment) = [none, none, none, some 0] := by
  decide

end Handles
end IssuerReadiness
