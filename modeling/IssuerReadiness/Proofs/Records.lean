import IssuerReadiness.Client.Instrumented
import IssuerReadiness.Proofs.Action
import IssuerReadiness.Setup

/-!
# What an operation puts on record

Besides what it is there for, an operation may write lines and have its calls counted.
All of this goes into the *ledger* of the session, its lines and its metrics, and an
operation should take no notice of what the ledger holds: who watches a program must not
change it.

## Writing blindly

`Gives f σ p r` says that `f`, started in the session `σ` with whatever ledger, comes to
`p` and adds the records `r` to the ledger.  An operation is `WriteOnly` if it does so from
every session.  This is so of everything that is put together from write-only parts, and
of every part that reads the moment or the network only.

## Writing more

`Shadows f f' noted` says that `f'` does what `f` does and has on record, besides, the
calls `noted`.  The records of the two are compared by `Woven`: those of `f'` are the
records of `f` and those of the noted calls, each in their order.

* `Observation`, `Records`: a call that is counted, and what is added to a ledger.
* `WriteOnly.onResult`, `Shadows.onResult`: from the parts to the whole.
* `Shadows.timed`: a timed operation shadows the operation inside.
-/

namespace IssuerReadiness

/-! ## Ledgers -/

/-- One call of an operation, as it is counted. -/
structure Observation where
  operation : String
  /-- How many microseconds it took. -/
  us : Int
  /-- Whether it returned. -/
  success : Bool
  deriving DecidableEq, Repr

/-- The line that tells of a call. -/
def Observation.text (o : Observation) : String :=
  o.operation ++ (if o.success then " succeeded in " else " failed in ") ++ toString o.us ++ "us"

/-- The call of an operation that starts in the session `σ`. -/
def Action.observation (operation : String) (a : Action Unit) (σ : Session) : Observation where
  operation := operation
  us := ((a σ).2.moment.now - σ.moment.now).tdiv 1000
  success := (a σ).1.toBool

/-- Counts calls, one after the other. -/
def Metrics.observeAll (m : Metrics) (calls : List Observation) : Metrics :=
  calls.foldl (fun m o => m.observe o.operation o.us o.success) m

theorem Metrics.observeAll_append (m : Metrics) (calls calls' : List Observation) :
    m.observeAll (calls ++ calls') = (m.observeAll calls).observeAll calls' :=
  List.foldl_append

/-- What a session keeps for those who watch. -/
structure Ledger where
  lines : List Line
  metrics : Metrics

/-- What is added to a ledger: lines, and calls to be counted. -/
structure Records where
  lines : List Line := []
  counts : List Observation := []

/-- The records of two, one after the other. -/
instance : Append Records :=
  ⟨fun r r' => ⟨r.lines ++ r'.lines, r.counts ++ r'.counts⟩⟩

/-- Adds records. -/
def Ledger.add (l : Ledger) (r : Records) : Ledger where
  lines := l.lines ++ r.lines
  metrics := l.metrics.observeAll r.counts

namespace Session

/-- The ledger of a session. -/
def ledger (σ : Session) : Ledger where
  lines := σ.log.lines
  metrics := σ.metrics

/-- The session with another ledger. -/
def withLedger (σ : Session) (l : Ledger) : Session :=
  { σ with metrics := l.metrics, log := { σ.log with lines := l.lines } }

@[simp] theorem ledger_withLedger (σ : Session) (l : Ledger) : (σ.withLedger l).ledger = l := rfl

@[simp] theorem withLedger_withLedger (σ : Session) (l l' : Ledger) :
    (σ.withLedger l).withLedger l' = σ.withLedger l' := rfl

end Session

@[simp] theorem Ledger.add_nil (l : Ledger) : l.add {} = l := by
  unfold add
  rw [List.append_nil]
  rfl

theorem Ledger.add_append (l : Ledger) (r r' : Records) : l.add (r ++ r') = (l.add r).add r' := by
  show Ledger.mk (l.lines ++ (r.lines ++ r'.lines)) (l.metrics.observeAll (r.counts ++ r'.counts)) =
    Ledger.mk (l.lines ++ r.lines ++ r'.lines) ((l.metrics.observeAll r.counts).observeAll r'.counts)
  rw [List.append_assoc, Metrics.observeAll_append]

/-! Lines. -/

/-- The lines that a logger keeps of one that is written. -/
def Logger.kept (logger : Logger) (level : Level) (text : String) : List Line :=
  if logger.admits level then [⟨level, logger.name, text, logger.sinks⟩] else []

theorem LogBook.write_eq (book : LogBook) (logger : Logger) (level : Level) (text : String) :
    book.write logger level text = { book with lines := book.lines ++ logger.kept level text } := by
  unfold write Logger.kept
  split
  · rfl
  · rw [List.append_nil]

theorem LogBook.foldl_write (logger : Logger) (notes : List (Level × String)) (book : LogBook) :
    notes.foldl (fun b n => b.write logger n.1 n.2) book =
      { book with lines := book.lines ++ notes.flatMap fun n => logger.kept n.1 n.2 } := by
  induction notes generalizing book with
  | nil => rw [List.flatMap_nil, List.append_nil]; rfl
  | cons n notes ih => rw [List.foldl_cons, ih, write_eq, List.flatMap_cons, List.append_assoc]

/-- Notes are written with the root logger, which stays the same meanwhile. -/
theorem LogBook.noteAll_eq (book : LogBook) (notes : List (Level × String)) :
    book.noteAll notes =
      { book with lines := book.lines ++ notes.flatMap fun n => book.root.kept n.1 n.2 } := by
  rw [← foldl_write, noteAll]
  generalize hroot : book.root = root
  induction notes generalizing book with
  | nil => rfl
  | cons n notes ih =>
    rw [List.foldl_cons, List.foldl_cons, ih _ (by rw [root_write, hroot]), hroot]

theorem LogBook.noteEvent_eq (book : LogBook) (r : Recorder) (e : Event) :
    book.noteEvent r e =
      { book with lines := book.lines ++ (r.notes e).flatMap fun n => r.logger.kept n.1 n.2 } :=
  foldl_write ..

theorem Session.write_eq (σ : Session) (logger : Logger) (level : Level) (text : String) :
    σ.write logger level text = σ.withLedger (σ.ledger.add { lines := logger.kept level text }) := by
  rw [write, LogBook.write_eq]
  rfl

/-- A line may be written before the ledger is exchanged. -/
theorem Session.write_withLedger (σ : Session) (l : Ledger) (logger : Logger) (level : Level)
    (text : String) :
    (σ.withLedger l).write logger level text =
      (σ.write logger level text).withLedger (l.add { lines := logger.kept level text }) := by
  rw [write_eq, write_eq]
  rfl

/-! ## Writing blindly -/

variable {ρ : Type} {α β : Type} {counting metered : Bool} {logger : Logger} {σ τ : Session}
  {p : ρ × Session} {r r' : Records}

/-- Started in the session `σ` with whatever ledger, `f` comes to `p`, and the records `r`
are added to the ledger. -/
def Gives (f : Session → ρ × Session) (σ : Session) (p : ρ × Session) (r : Records) : Prop :=
  ∀ l, f (σ.withLedger l) = (p.1, p.2.withLedger (l.add r))

/-- What is done takes no notice of the ledger and does nothing to it but add records.
Unless it is `counting`, it has no calls counted. -/
def WriteOnly (counting : Bool) (f : Session → ρ × Session) : Prop :=
  ∀ σ, ∃ r, (counting = false → r.counts = []) ∧ Gives f σ (f σ) r

theorem Gives.onResult_ok {a : Action α} {failed : Failure → Session → ρ × Session}
    {next : α → Session → ρ × Session} {x : α} (ha : Gives a σ (.ok x, τ) r)
    (hnext : Gives (next x) τ p r') : Gives (a.onResult failed next) σ p (r ++ r') := by
  intro l
  rw [Action.onResult_of_ok (ha l), Ledger.add_append]
  exact hnext (l.add r)

theorem Gives.onResult_error {a : Action α} {failed : Failure → Session → ρ × Session}
    {next : α → Session → ρ × Session} {e : Failure} (ha : Gives a σ (.error e, τ) r)
    (hfailed : Gives (failed e) τ p r') : Gives (a.onResult failed next) σ p (r ++ r') := by
  intro l
  rw [Action.onResult_of_error (ha l), Ledger.add_append]
  exact hfailed (l.add r)

theorem Gives.afterWrite {f : Session → ρ × Session} {level : Level} {text : String}
    (h : Gives f (σ.write logger level text) p r) :
    Gives (fun σ => f (σ.write logger level text)) σ p
      ({ lines := logger.kept level text } ++ r) := by
  intro l
  rw [Ledger.add_append]
  dsimp only
  rw [Session.write_withLedger]
  exact h _

namespace WriteOnly

/-- What has nothing to do with the ledger is write-only. -/
theorem of_silent {f : Session → ρ × Session}
    (h : ∀ σ l, f (σ.withLedger l) = ((f σ).1, (f σ).2.withLedger l)) :
    WriteOnly counting f := by
  intro σ
  refine ⟨{}, fun _ => rfl, fun l => ?_⟩
  rw [Ledger.add_nil]
  exact h σ l

/-- What writes lines and changes nothing else is write-only, if neither the lines nor the
result depend on the ledger. -/
theorem of_lines {f : Session → ρ × Session} (x : Session → ρ) (lines : Session → List Line)
    (h : ∀ σ, f σ = (x σ, σ.withLedger (σ.ledger.add { lines := lines σ })))
    (hx : ∀ σ l, x (σ.withLedger l) = x σ) (hlines : ∀ σ l, lines (σ.withLedger l) = lines σ) :
    WriteOnly counting f := by
  intro σ
  refine ⟨{ lines := lines σ }, fun _ => rfl, fun l => ?_⟩
  rw [h, h, hx, hlines]
  rfl

theorem afterWrite {f : Session → ρ × Session} (h : WriteOnly counting f) (logger : Logger)
    (level : Level) (text : String) :
    WriteOnly counting fun σ => f (σ.write logger level text) := by
  intro σ
  obtain ⟨r, hcounts, hr⟩ := h (σ.write logger level text)
  let written : Records := { lines := logger.kept level text }
  exact ⟨written ++ r, hcounts, hr.afterWrite⟩

/-- The moment may be looked at. -/
theorem ofMoment {k : Moment → Session → ρ × Session} (h : ∀ m, WriteOnly counting (k m)) :
    WriteOnly counting fun σ => k σ.moment σ :=
  fun σ => h σ.moment σ

theorem onResult {a : Action α} {failed : Failure → Session → ρ × Session}
    {next : α → Session → ρ × Session} (ha : WriteOnly counting a)
    (hfailed : ∀ e, WriteOnly counting (failed e)) (hnext : ∀ x, WriteOnly counting (next x)) :
    WriteOnly counting (a.onResult failed next) := by
  intro σ
  obtain ⟨r, hcounts, hr⟩ := ha σ
  rcases haσ : a σ with ⟨e | x, τ⟩
  · rw [haσ] at hr
    obtain ⟨r', hcounts', hr'⟩ := hfailed e τ
    rw [Action.onResult_of_error haσ]
    exact ⟨r ++ r', fun hc => List.append_eq_nil_iff.2 ⟨hcounts hc, hcounts' hc⟩,
      hr.onResult_error hr'⟩
  · rw [haσ] at hr
    obtain ⟨r', hcounts', hr'⟩ := hnext x τ
    rw [Action.onResult_of_ok haσ]
    exact ⟨r ++ r', fun hc => List.append_eq_nil_iff.2 ⟨hcounts hc, hcounts' hc⟩,
      hr.onResult_ok hr'⟩

theorem pure (x : α) : WriteOnly counting (Pure.pure x : Action α) :=
  of_silent fun _ _ => rfl

theorem throw (f : Failure) : WriteOnly counting (MonadExcept.throw f : Action α) :=
  of_silent fun _ _ => rfl

theorem ofExcept (r : Except Failure α) :
    WriteOnly counting (MonadExcept.ofExcept r : Action α) := by
  cases r with
  | error f => exact throw f
  | ok x => exact pure x

theorem bind {a : Action α} {k : α → Action β} (ha : WriteOnly counting a)
    (hk : ∀ x, WriteOnly counting (k x)) : WriteOnly counting (a >>= k : Action β) := by
  rw [Action.bind_eq_onResult]
  exact ha.onResult (fun _ => of_silent fun _ _ => rfl) hk

theorem check (ctx : Context) : WriteOnly counting (Action.check ctx) := by
  refine of_silent fun σ l => ?_
  cases hfailure : ctx.failure? σ.moment with
  | some f =>
    rw [Action.check_of_failure hfailure]
    exact Action.check_of_failure hfailure
  | none =>
    have live : ctx.isDone σ.moment = false := Context.failure?_eq_none_iff.1 hfailure
    rw [Action.check_of_live live]
    exact Action.check_of_live live

theorem log (logger : Logger) (level : Level) (text : String) :
    WriteOnly counting (Action.log logger level text) :=
  of_lines (fun _ => .ok ()) (fun _ => logger.kept level text)
    (fun σ => congrArg (Prod.mk _) (σ.write_eq logger level text)) (fun _ _ => rfl) fun _ _ => rfl

theorem withinClient {a : Action α} (h : WriteOnly counting a) (context : String) :
    WriteOnly counting (a.withinClient context) := by
  intro σ
  obtain ⟨r, hcounts, hr⟩ := h σ
  refine ⟨r, hcounts, fun l => ?_⟩
  rw [Action.withinClient_apply, Action.withinClient_apply, hr l]

/-- What is noted in the journal is not in the ledger. -/
theorem journaled {a : Action α} (h : WriteOnly counting a) (call : Call) :
    WriteOnly counting (fun σ => ((a σ).1, { (a σ).2 with calls := σ.calls ++ [call] })) := by
  intro σ
  obtain ⟨r, hcounts, hr⟩ := h σ
  refine ⟨r, hcounts, fun l => ?_⟩
  dsimp only
  rw [hr l]
  rfl

end WriteOnly

/-! ## Writing more -/

/-- The list `zs` consists of `xs` and `ys`, each in its order. -/
inductive Woven : List α → List α → List α → Prop where
  | nil : Woven [] [] []
  | left {x : α} {xs ys zs : List α} : Woven xs ys zs → Woven (x :: xs) ys (x :: zs)
  | right {y : α} {xs ys zs : List α} : Woven xs ys zs → Woven xs (y :: ys) (y :: zs)

namespace Woven

theorem nil_left (ys : List α) : Woven [] ys ys := by
  induction ys with
  | nil => exact .nil
  | cons y ys ih => exact .right ih

theorem nil_right (xs : List α) : Woven xs [] xs := by
  induction xs with
  | nil => exact .nil
  | cons x xs ih => exact .left ih

theorem append {xs ys zs xs' ys' zs' : List α} (h : Woven xs ys zs) (h' : Woven xs' ys' zs') :
    Woven (xs ++ xs') (ys ++ ys') (zs ++ zs') := by
  induction h with
  | nil => exact h'
  | left _ ih => exact .left ih
  | right _ ih => exact .right ih

end Woven

namespace Records

/-- The records of calls: a line of each if the logger keeps it, and each is counted if
there is anything to count it in. -/
def ofCalls (metered : Bool) (logger : Logger) (calls : List Observation) : Records where
  lines := calls.flatMap fun o => logger.kept .debug o.text
  counts := if metered then calls else []

theorem ofCalls_append (metered : Bool) (logger : Logger) (calls calls' : List Observation) :
    ofCalls metered logger (calls ++ calls') =
      ofCalls metered logger calls ++ ofCalls metered logger calls' := by
  unfold ofCalls
  rw [List.flatMap_append]
  cases metered <;> rfl

/-- The records `r'` consist of `r` and of those of calls. -/
structure Adds (metered : Bool) (logger : Logger) (calls : List Observation) (r r' : Records) :
    Prop where
  lines : Woven (ofCalls metered logger calls).lines r.lines r'.lines
  counts : Woven (ofCalls metered logger calls).counts r.counts r'.counts

theorem adds_nil (metered : Bool) (logger : Logger) (r : Records) : Adds metered logger [] r r where
  lines := .nil_left r.lines
  counts := by cases metered <;> exact .nil_left r.counts

theorem Adds.append {calls calls' : List Observation} {r₁ r₁' r₂ r₂' : Records}
    (h₁ : Adds metered logger calls r₁ r₁') (h₂ : Adds metered logger calls' r₂ r₂') :
    Adds metered logger (calls ++ calls') (r₁ ++ r₂) (r₁' ++ r₂') where
  lines := by
    rw [ofCalls_append]
    exact h₁.lines.append h₂.lines
  counts := by
    rw [ofCalls_append]
    exact h₁.counts.append h₂.counts

/-- Calls may be noted in the end. -/
theorem adds_append (metered : Bool) (logger : Logger) (calls : List Observation) (r : Records) :
    Adds metered logger calls r (r ++ ofCalls metered logger calls) where
  lines := by
    have h := (Woven.nil_left r.lines).append (.nil_right (ofCalls metered logger calls).lines)
    rwa [List.append_nil] at h
  counts := by
    have h := (Woven.nil_left r.counts).append (.nil_right (ofCalls metered logger calls).counts)
    rwa [List.append_nil] at h

end Records

/-- What is noted of what goes on from an operation: nothing if the operation fails. -/
def Action.notedAfter (a : Action α) (noted : α → Session → List Observation) (σ : Session) :
    List Observation :=
  match a σ with
  | (.error _, _) => []
  | (.ok x, τ) => noted x τ

theorem Action.notedAfter_of_error {a : Action α} {noted : α → Session → List Observation}
    {e : Failure} (h : a σ = (.error e, τ)) : a.notedAfter noted σ = [] := by
  rw [notedAfter, h]

theorem Action.notedAfter_of_ok {a : Action α} {noted : α → Session → List Observation} {x : α}
    (h : a σ = (.ok x, τ)) : a.notedAfter noted σ = noted x τ := by
  rw [notedAfter, h]

/-- Whatever the session, `f` takes no notice of the ledger, `f'` comes to the same, and
it puts on record what `f` does and the calls `noted`. -/
def Shadows (metered : Bool) (logger : Logger) (f f' : Session → ρ × Session)
    (noted : Session → List Observation) : Prop :=
  ∀ σ, ∃ r r', Gives f σ (f σ) r ∧ Gives f' σ (f σ) r' ∧
    Records.Adds metered logger (noted σ) r r'

theorem WriteOnly.shadows {f : Session → ρ × Session} (h : WriteOnly counting f) (metered : Bool)
    (logger : Logger) : Shadows metered logger f f fun _ => [] := by
  intro σ
  obtain ⟨r, -, hr⟩ := h σ
  exact ⟨r, r, hr, hr, Records.adds_nil metered logger r⟩

namespace Shadows

theorem congr {f f' : Session → ρ × Session} {noted noted' : Session → List Observation}
    (h : Shadows metered logger f f' noted) (hnoted : ∀ σ, noted σ = noted' σ) :
    Shadows metered logger f f' noted' := by
  intro σ
  rw [← hnoted]
  exact h σ

theorem afterWrite {f f' : Session → ρ × Session} {noted : Session → List Observation}
    (h : Shadows metered logger f f' noted) (own : Logger) (level : Level)
    (text : String) :
    Shadows metered logger (fun σ => f (σ.write own level text))
      (fun σ => f' (σ.write own level text)) fun σ => noted (σ.write own level text) := by
  intro σ
  obtain ⟨r, r', hr, hr', hadds⟩ := h (σ.write own level text)
  let written : Records := { lines := own.kept level text }
  exact ⟨written ++ r, written ++ r', hr.afterWrite, hr'.afterWrite,
    (Records.adds_nil metered logger written).append hadds⟩

/-- An operation with what goes on from its result has on record what both have. -/
theorem onResult {a a' : Action α} {failed : Failure → Session → ρ × Session}
    {next next' : α → Session → ρ × Session} {noted : Session → List Observation}
    {noted' : α → Session → List Observation} (ha : Shadows metered logger a a' noted)
    (hfailed : ∀ e, WriteOnly false (failed e))
    (hnext : ∀ x, (∃ σ, (a σ).1 = .ok x) →
      Shadows metered logger (next x) (next' x) (noted' x)) :
    Shadows metered logger (a.onResult failed next) (a'.onResult failed next') fun σ =>
      noted σ ++ a.notedAfter noted' σ := by
  intro σ
  obtain ⟨r, r', hr, hr', hadds⟩ := ha σ
  rcases haσ : a σ with ⟨e | x, τ⟩
  · rw [haσ] at hr hr'
    obtain ⟨r₁, r₁', hr₁, hr₁', hadds₁⟩ := (hfailed e).shadows metered logger τ
    rw [Action.onResult_of_error haσ]
    dsimp only
    rw [Action.notedAfter_of_error haσ]
    exact ⟨r ++ r₁, r' ++ r₁', hr.onResult_error hr₁, hr'.onResult_error hr₁',
      hadds.append hadds₁⟩
  · rw [haσ] at hr hr'
    obtain ⟨r₁, r₁', hr₁, hr₁', hadds₁⟩ := hnext x ⟨σ, by rw [haσ]⟩ τ
    rw [Action.onResult_of_ok haσ]
    dsimp only
    rw [Action.notedAfter_of_ok haσ]
    exact ⟨r ++ r₁, r' ++ r₁', hr.onResult_ok hr₁, hr'.onResult_ok hr₁', hadds.append hadds₁⟩

/-- If the context is done then neither operation is started, and nothing is noted. -/
theorem afterCheck {a a' : Action α} {noted : Session → List Observation}
    (h : Shadows metered logger a a' noted) (ctx : Context) :
    Shadows metered logger (Action.check ctx >>= fun _ => a : Action α)
      (Action.check ctx >>= fun _ => a' : Action α) fun σ =>
        if ctx.isDone σ.moment then [] else noted σ := by
  have hcheck : WriteOnly false (Action.check ctx) := .check ctx
  have hfailed : ∀ e : Failure, WriteOnly false fun τ => ((.error e : Except Failure α), τ) :=
    fun _ => .of_silent fun _ _ => rfl
  rw [Action.bind_eq_onResult, Action.bind_eq_onResult]
  refine ((hcheck.shadows metered logger).onResult hfailed fun _ _ => h).congr fun σ => ?_
  cases hfailure : ctx.failure? σ.moment with
  | some f =>
    rw [Action.notedAfter_of_error (Action.check_of_failure hfailure),
      if_pos (Context.isDone_of_failure? hfailure)]
    rfl
  | none =>
    have live : ctx.isDone σ.moment = false := Context.failure?_eq_none_iff.1 hfailure
    rw [Action.notedAfter_of_ok (Action.check_of_live live), live]
    rfl

end Shadows

/-! ## Timed operations -/

/-- A timed operation does what the operation inside does, and puts one call on record. -/
theorem Action.timed_apply (operation : String) (metered : Bool) (logger : Logger)
    (a : Action Unit) (σ : Session) :
    timed operation metered logger a σ =
      ((a σ).1, (a σ).2.withLedger
        ((a σ).2.ledger.add (Records.ofCalls metered logger [observation operation a σ]))) := by
  refine congrArg (Prod.mk (a σ).1) ?_
  unfold Session.observe
  rw [Session.write_eq]
  cases metered
  · exact congrArg (fun lines => (a σ).2.withLedger ((a σ).2.ledger.add ⟨lines, []⟩))
      (List.append_nil _).symm
  · exact congrArg (fun lines => (a σ).2.withLedger ((a σ).2.ledger.add
      ⟨lines, [observation operation a σ]⟩)) (List.append_nil _).symm

theorem Shadows.timed {a : Action Unit} (h : WriteOnly counting a) (operation : String)
    (metered : Bool) (logger : Logger) :
    Shadows metered logger a (Action.timed operation metered logger a) fun σ =>
      [Action.observation operation a σ] := by
  intro σ
  obtain ⟨r, -, hr⟩ := h σ
  refine ⟨r, r ++ Records.ofCalls metered logger [Action.observation operation a σ], hr,
    fun l => ?_, Records.adds_append ..⟩
  -- The ledger has no part in what is told of the call.
  have hcall : Action.observation operation a (σ.withLedger l) =
      Action.observation operation a σ := by
    unfold Action.observation
    rw [hr l]
    rfl
  rw [Action.timed_apply, hcall, hr l, Ledger.add_append]
  rfl

end IssuerReadiness
