import IssuerReadiness.Failure
import IssuerReadiness.Timestamp

/-!
# Cancellation and deadlines

A context says how long an operation may go on.  It is done once it is canceled,
or once its deadline, if it has one, is reached.

A context is a handle: copies of it share one cancellation, so it names that
cancellation by a token, and what was canceled is kept in the `Moment` beside
the time.  Being done is a relation between the two, so the same context can be
live at one moment and done at the next.

There are two clocks.  Deadlines and durations are measured by one that only says how
much time has passed; the date and time, which conditions and events are stamped
with, are read off another one.  They advance together, and the second one may be
set besides.

* `Moment.issue`, `Moment.withTimeout` --- a new context with a token of its own.
* `Moment.cancel`, `Moment.advance`, `Moment.setWall` --- what can happen to a moment.
* `Context.isDone`, `Context.err?`, `Context.failure?`, `Context.remaining?` ---
  what a context says at a moment.
-/

namespace IssuerReadiness

/-- A handle on a cancellation, and perhaps a deadline. -/
structure Context where
  token : Nat
  deadline : Option Instant
  deriving DecidableEq, Repr

/-- The time, and the cancellations made so far. -/
structure Moment where
  /-- The time by the clock that durations are measured by. -/
  now : Instant
  /-- The date and time. -/
  wall : Instant := now
  /-- How many tokens were given out. -/
  issued : Nat := 0
  /-- The tokens that were canceled. -/
  canceled : List Nat := []
  deriving DecidableEq, Repr

namespace Moment

/-- A microsecond in nanoseconds. -/
def microsecond : Int := 1000

/-- A millisecond in nanoseconds. -/
def millisecond : Int := 1000000

/-- A new context that shares its cancellation with no other. -/
def issue (m : Moment) (deadline : Option Instant) : Context × Moment :=
  (⟨m.issued, deadline⟩, { m with issued := m.issued + 1 })

/-- A new context that expires after a number of milliseconds. -/
def withTimeout (m : Moment) (ms : Int) : Context × Moment :=
  m.issue (some (m.now + ms * millisecond))

/-- Cancels a context and every copy of it. -/
def cancel (m : Moment) (ctx : Context) : Moment :=
  { m with canceled := ctx.token :: m.canceled }

/-- Moves both clocks by a number of microseconds. -/
def advance (m : Moment) (us : Int) : Moment :=
  { m with now := m.now + us * microsecond, wall := m.wall + us * microsecond }

/-- Sets the date and time forward by a number of microseconds, or back; no time passes. -/
def setWall (m : Moment) (us : Int) : Moment :=
  { m with wall := m.wall + us * microsecond }

end Moment

/-- Why a context is done. -/
inductive Ended where
  | canceled
  | deadlineExceeded
  deriving DecidableEq, Repr

namespace Ended

/-- The message of an operation that ended for this reason. -/
def text : Ended → String
  | .canceled => "context canceled"
  | .deadlineExceeded => "context deadline exceeded"

/-- The code of an operation that ended for this reason. -/
def code : Ended → String
  | .canceled => "CONTEXT_CANCELED"
  | .deadlineExceeded => "CONTEXT_DEADLINE_EXCEEDED"

/-- The failure of an operation that ended for this reason. -/
def failure (e : Ended) : Failure :=
  .context e.code e.text

end Ended

namespace Context

/-- Whether the context was canceled, through whichever copy. -/
def isCanceled (ctx : Context) (m : Moment) : Bool :=
  m.canceled.contains ctx.token

/-- Whether the deadline is reached. -/
def isExpired (ctx : Context) (m : Moment) : Bool :=
  match ctx.deadline with
  | some d => decide (d ≤ m.now)
  | none => false

/-- Whether the context is done. -/
def isDone (ctx : Context) (m : Moment) : Bool :=
  ctx.isCanceled m || ctx.isExpired m

/-- Why the context is done; cancellation counts before the deadline. -/
def err? (ctx : Context) (m : Moment) : Option Ended :=
  if ctx.isCanceled m then some .canceled
  else if ctx.isExpired m then some .deadlineExceeded
  else none

/-- The failure of an operation that is asked for when the context is done. -/
def failure? (ctx : Context) (m : Moment) : Option Failure :=
  (ctx.err? m).map Ended.failure

/-- The whole milliseconds that are left until the deadline, none once it is
reached; nothing without a deadline. -/
def remaining? (ctx : Context) (m : Moment) : Option Int :=
  ctx.deadline.map fun d => max 0 ((d - m.now).tdiv Moment.millisecond)

theorem isDone_eq_isSome_err? (ctx : Context) (m : Moment) :
    ctx.isDone m = (ctx.err? m).isSome := by
  unfold isDone err?
  cases ctx.isCanceled m <;> cases ctx.isExpired m <;> rfl

theorem failure?_eq_none_iff {ctx : Context} {m : Moment} :
    ctx.failure? m = none ↔ ctx.isDone m = false := by
  rw [failure?, Option.map_eq_none_iff, isDone_eq_isSome_err?, Option.isSome_eq_false_iff,
    Option.isNone_iff_eq_none]

end Context

end IssuerReadiness
