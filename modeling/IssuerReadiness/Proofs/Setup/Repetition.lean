import Mathlib.Data.List.Chain
import IssuerReadiness.Client.Scripted
import IssuerReadiness.Proofs.Setup.Verdict

/-!
# Setting up again

An issuer is set up again and again, and its status has to tell how the issuer is, not
how often this was found out.  So a verdict that is reached once more leaves the status
as it is, down to the time, and a verdict that is new is dated where it was reached.

## What counts

Of everything that a setup meets, only three things show in what it leaves: what it
found, how it ended, and the time at which it ended (`Leaves`, `leaves_run`).  Builders,
secrets, contexts and sessions may therefore change from one setup to the next as they
like, and so may the clock, which is part of the session: it may stand still between two
setups, or go back.

How a setup ended is more than its verdict.  Two setups that fail in different stages
have the same verdict, the issuer cannot be used, and since when this is so does not
change between them; only the message does.

* `Setup.Round`, `Setup.rounds`: setups of one issuer, one after the other.
* `Settled`: the status and the events after setups that all end the same way.
* `Turned`: what the status after a setup has to do with the one after the setup before.
* `steady_rounds`: all setups of an issuer are such.
-/

namespace IssuerReadiness
namespace Setup

/-! ## Rounds -/

/-- What one of many setups of an issuer meets, besides the issuer and the recorder. -/
structure Round where
  builder : Builder
  secrets : SecretStore
  ctx : Context
  session : Session

/-- The result of one round. -/
def play (s : Setup) (issuer : Issuer) (recorder : Recorder) (round : Round) :
    Outcome × Session :=
  ({ s with builder := round.builder } : Setup).run round.secrets round.ctx issuer recorder
    round.session

/-- The results of setting an issuer up once in each round, where each round starts with
the issuer and the recorder that the one before has left. -/
def rounds (s : Setup) (issuer : Issuer) (recorder : Recorder) :
    List Round → List (Outcome × Session)
  | [] => []
  | round :: rest =>
      let r := s.play issuer recorder round
      r :: s.rounds r.1.issuer r.1.recorder rest

@[simp] theorem rounds_nil (s : Setup) (issuer : Issuer) (recorder : Recorder) :
    s.rounds issuer recorder [] = [] := rfl

theorem rounds_cons (s : Setup) (issuer : Issuer) (recorder : Recorder) (round : Round)
    (rest : List Round) :
    s.rounds issuer recorder (round :: rest) =
      s.play issuer recorder round ::
        s.rounds (s.play issuer recorder round).1.issuer (s.play issuer recorder round).1.recorder
          rest := rfl

@[simp] theorem length_rounds (s : Setup) (issuer : Issuer) (recorder : Recorder)
    (rs : List Round) : (s.rounds issuer recorder rs).length = rs.length := by
  induction rs generalizing issuer recorder with
  | nil => rfl
  | cons round rest ih => rw [rounds_cons, List.length_cons, List.length_cons, ih]

/-- How a setup ended: well, or in a stage and for a cause. -/
def Outcome.ending (o : Outcome) : Option (Stage × String) :=
  match o.verdict with
  | .ok () => none
  | .error e => some (e.stage, e.cause)

/-! ## What one setup leaves -/

/-- The Ready condition that a setup writes, by how it ended. -/
def told (s : Setup) (issuer : Issuer) : Option (Stage × String) → Condition
  | none => Condition.ready .holds s.startedText s.startedText issuer.generation
  | some (stage, cause) =>
      Condition.ready .fails errorReason (SetupError.of s.backend stage cause).message
        issuer.generation

@[simp] theorem type_told (s : Setup) (issuer : Issuer) (ending : Option (Stage × String)) :
    (s.told issuer ending).type = "Ready" := by
  rcases ending with _ | ⟨stage, cause⟩ <;> rfl

/-- The status tells the verdict and nothing else of how a setup ended. -/
theorem status_told (s : Setup) (issuer : Issuer) (ending : Option (Stage × String)) :
    (s.told issuer ending).status = if ending.isNone then .holds else .fails := by
  rcases ending with _ | ⟨stage, cause⟩ <;> rfl

/-- The event of a setup that ended well at the time `now`. -/
def verified (s : Setup) (issuer : Issuer) (now : Instant) : Event :=
  { type := .normal
    reason := "Ready"
    message := "Verified issuer with " ++ s.backend ++ " server"
    kind := issuer.kind
    ns := issuer.ns
    name := issuer.name
    time := now }

/-- What the result `r` of a setup leaves of the issuer and of the recorder is decided by
how it ended and when. -/
structure Leaves (s : Setup) (issuer : Issuer) (recorder : Recorder) (r : Outcome × Session) :
    Prop where
  status : r.1.issuer = { issuer with
    conditions :=
      (Condition.upsert issuer.conditions (s.told issuer r.1.ending) r.2.moment.wall).conditions }
  events : r.1.recorder =
    if r.1.ending = none then recorder.record (s.verified issuer r.2.moment.wall) else recorder

theorem leaves_play (s : Setup) (issuer : Issuer) (recorder : Recorder) (round : Round) :
    Leaves s issuer recorder (s.play issuer recorder round) := by
  have hends := ends_run { s with builder := round.builder } round.secrets round.ctx issuer
    recorder round.session
  rw [← play] at hends
  rcases hends with ⟨σ, hr⟩ | ⟨stage, cause, σ, hr⟩
  · rw [hr]
    exact ⟨rfl, rfl⟩
  · rw [hr]
    exact ⟨rfl, rfl⟩

/-- The conditions are such as a setup leaves them that ended in a certain way. -/
def Shows (s : Setup) (issuer : Issuer) (ending : Option (Stage × String)) : Prop :=
  ∃ cs now, issuer.conditions = (Condition.upsert cs (s.told issuer ending) now).conditions

variable {s : Setup} {issuer : Issuer} {recorder : Recorder} {r r' : Outcome × Session}
  {ending : Option (Stage × String)}

/-- The conditions of an issuer do not count for what is written about it. -/
theorem Leaves.told_eq (h : Leaves s issuer recorder r) (ending : Option (Stage × String)) :
    s.told r.1.issuer ending = s.told issuer ending := by
  rw [h.status]
  rcases ending with _ | ⟨stage, cause⟩ <;> rfl

theorem Leaves.verified_eq (h : Leaves s issuer recorder r) (now : Instant) :
    s.verified r.1.issuer now = s.verified issuer now := by
  rw [h.status]
  rfl

theorem Leaves.shows (h : Leaves s issuer recorder r) : Shows s r.1.issuer r.1.ending := by
  refine ⟨issuer.conditions, r.2.moment.wall, ?_⟩
  rw [h.told_eq, h.status]

/-- A setup that ends as the status tells already leaves the issuer as it was. -/
theorem Leaves.issuer_eq (h : Leaves s issuer recorder r) (hshows : Shows s issuer r.1.ending) :
    r.1.issuer = issuer := by
  obtain ⟨cs, now, hcs⟩ := hshows
  rw [h.status, hcs, Condition.conditions_upsert_again, ← hcs]

/-! ## Setups that end the same way -/

/-- What setups leave that all end in the same way.  All of them leave the same issuer.
If they end well then each of them has told the recorder of it, and if not then none
has. -/
structure Settled (s : Setup) (issuer : Issuer) (recorder : Recorder)
    (ending : Option (Stage × String)) (results : List (Outcome × Session)) : Prop where
  status : ∀ r ∈ results, ∀ r' ∈ results, r.1.issuer = r'.1.issuer
  events : ∀ last, results.getLast? = some last → last.1.recorder =
    match ending with
    | none =>
        (results.map fun r => s.verified issuer r.2.moment.wall).foldl Recorder.record recorder
    | some _ => recorder

/-- Setups that end as the status tells already leave the issuer as it was. -/
theorem issuer_of_shows (hshows : Shows s issuer ending) (rs : List Round)
    (hending : ∀ r ∈ s.rounds issuer recorder rs, r.1.ending = ending) :
    ∀ r ∈ s.rounds issuer recorder rs, r.1.issuer = issuer := by
  induction rs generalizing recorder with
  | nil => simp
  | cons round rest ih =>
    have hleaves := leaves_play s issuer recorder round
    rw [rounds_cons] at hending ⊢
    have hfirst : (s.play issuer recorder round).1.ending = ending :=
      hending _ List.mem_cons_self
    have hsame : (s.play issuer recorder round).1.issuer = issuer :=
      hleaves.issuer_eq (hfirst ▸ hshows)
    rw [hsame] at hending ⊢
    intro r hr
    rcases List.mem_cons.1 hr with rfl | hr
    · exact hsame
    · exact ih (fun r hr => hending r (List.mem_cons_of_mem _ hr)) r hr

/-- The recorder is told once of each setup that ends well, and of no other. -/
theorem recorder_of_rounds (s : Setup) (issuer : Issuer) (recorder : Recorder) (rs : List Round) :
    (((s.rounds issuer recorder rs).getLast?.map (·.1.recorder)).getD recorder) =
      (((s.rounds issuer recorder rs).filter (·.1.ending == none)).map fun r =>
        s.verified issuer r.2.moment.wall).foldl Recorder.record recorder := by
  induction rs generalizing issuer recorder with
  | nil => rfl
  | cons round rest ih =>
    have hleaves := leaves_play s issuer recorder round
    rw [rounds_cons]
    generalize s.play issuer recorder round = r at hleaves ⊢
    have hrest := ih r.1.issuer r.1.recorder
    simp only [hleaves.verified_eq] at hrest
    have hlast : ((r :: s.rounds r.1.issuer r.1.recorder rest).getLast?.map (·.1.recorder)).getD
        recorder =
          ((s.rounds r.1.issuer r.1.recorder rest).getLast?.map (·.1.recorder)).getD
            r.1.recorder := by
      rw [List.getLast?_cons]
      cases (s.rounds r.1.issuer r.1.recorder rest).getLast? <;> rfl
    rw [hlast, hrest, hleaves.events, List.filter_cons]
    by_cases hending : r.1.ending = none
    · rw [if_pos hending, if_pos (beq_iff_eq.2 hending), List.map_cons, List.foldl_cons]
    · rw [if_neg hending, if_neg fun h => hending (beq_iff_eq.1 h)]

theorem settled_rounds (rs : List Round)
    (hending : ∀ r ∈ s.rounds issuer recorder rs, r.1.ending = ending) :
    Settled s issuer recorder ending (s.rounds issuer recorder rs) where
  status := by
    cases rs with
    | nil => simp
    | cons round rest =>
      have hleaves := leaves_play s issuer recorder round
      rw [rounds_cons] at hending ⊢
      have hshows : Shows s (s.play issuer recorder round).1.issuer ending :=
        hending _ List.mem_cons_self ▸ hleaves.shows
      have hsame : ∀ r ∈ s.play issuer recorder round ::
          s.rounds (s.play issuer recorder round).1.issuer (s.play issuer recorder round).1.recorder
            rest, r.1.issuer = (s.play issuer recorder round).1.issuer := by
        intro r hr
        rcases List.mem_cons.1 hr with rfl | hr
        · rfl
        · exact issuer_of_shows hshows rest (fun r hr => hending r (List.mem_cons_of_mem _ hr)) r hr
      exact fun r hr r' hr' => (hsame r hr).trans (hsame r' hr').symm
  events := by
    intro last hlast
    have htold := recorder_of_rounds s issuer recorder rs
    rw [hlast, Option.map_some, Option.getD_some] at htold
    rw [htold]
    cases ending with
    | none =>
      have hall : (s.rounds issuer recorder rs).filter (·.1.ending == none) =
          s.rounds issuer recorder rs :=
        List.filter_eq_self.2 fun r hr => beq_iff_eq.2 (hending r hr)
      rw [hall]
    | some failed =>
      have hnone : (s.rounds issuer recorder rs).filter (·.1.ending == none) = [] :=
        List.filter_eq_nil_iff.2 fun r hr => by simp [hending r hr]
      rw [hnone]
      rfl

/-! ## Setups that end differently -/

/-- The lists are equal but for one Ready entry, which is `old` in the one and `new` in
the other, at the same place. -/
structure ReadyReplaced (old new : Condition) (l l' : List Condition) : Prop where
  types : old.type = "Ready" ∧ new.type = "Ready"
  place : ∃ before after, l = before ++ old :: after ∧ l' = before ++ new :: after ∧
    ∀ c ∈ before ++ after, c.type ≠ "Ready"

/-- What the result `r'` of a setup makes of the status that the setup before it has left,
whose result is `r`: the Ready entry is replaced where it stands, and it gets the time at
which `r'` was written if the verdicts differ, and keeps its time if they do not. -/
structure Turned (r r' : Outcome × Session) : Prop where
  replaced : ∃ old new, ReadyReplaced old new r.1.issuer.conditions r'.1.issuer.conditions ∧
    (r.1.ending.isNone ≠ r'.1.ending.isNone → new.lastTransition = some r'.2.moment.wall) ∧
    (r.1.ending.isNone = r'.1.ending.isNone → new.lastTransition = old.lastTransition)

/-- A setup turns what the setup before it has left. -/
theorem turned_of_leaves (h : Leaves s issuer recorder r)
    (h' : Leaves s r.1.issuer r.1.recorder r') : Turned r r' := by
  have hconditions : r.1.issuer.conditions =
      (Condition.upsert issuer.conditions (s.told issuer r.1.ending)
        r.2.moment.wall).conditions := by
    rw [h.status]
  have hconditions' : r'.1.issuer.conditions =
      (Condition.upsert r.1.issuer.conditions (s.told issuer r'.1.ending)
        r'.2.moment.wall).conditions := by
    rw [h'.status, h.told_eq]
  have htype : (s.told issuer r'.1.ending).type = (s.told issuer r.1.ending).type := by
    rw [type_told, type_told]
  let old := Condition.entry issuer.conditions (s.told issuer r.1.ending) r.2.moment.wall
  have hold : old.status = if r.1.ending.isNone then .holds else .fails :=
    status_told s issuer r.1.ending
  let new := { s.told issuer r'.1.ending with
    lastTransition := some
      (Condition.since (some old) (s.told issuer r'.1.ending).status r'.2.moment.wall) }
  refine ⟨old, new, ⟨⟨type_told .., type_told ..⟩, _, _,
    hconditions.trans (Condition.conditions_upsert ..), ?_, ?_⟩, ?_, ?_⟩
  · rw [hconditions', hconditions]
    exact Condition.conditions_upsert_upsert _ htype _ _
  · rw [type_told]
    intro c hc
    rcases List.mem_append.1 hc with hc | hc
    · exact bne_iff_ne.1 (List.all_eq_true.1 List.all_takeWhile c hc)
    · exact bne_iff_ne.1 (List.mem_filter.1 hc).2
  · intro hverdict
    have hstatus : old.status ≠ (s.told issuer r'.1.ending).status := by
      rw [hold, status_told]
      cases hr : r.1.ending.isNone <;> cases hr' : r'.1.ending.isNone <;> simp_all
    exact congrArg some (if_neg hstatus)
  · intro hverdict
    have hstatus : old.status = (s.told issuer r'.1.ending).status := by
      rw [hold, status_told, hverdict]
    exact congrArg some (if_pos hstatus)

theorem isChain_rounds (s : Setup) (issuer : Issuer) (recorder : Recorder) (rs : List Round) :
    (s.rounds issuer recorder rs).IsChain Turned := by
  induction rs generalizing issuer recorder with
  | nil => exact List.isChain_nil
  | cons round rest ih =>
    have hrest := ih (s.play issuer recorder round).1.issuer
      (s.play issuer recorder round).1.recorder
    rw [rounds_cons]
    cases rest with
    | nil => exact List.isChain_singleton _
    | cons next rest =>
      rw [rounds_cons] at hrest ⊢
      exact List.isChain_cons_cons.2
        ⟨turned_of_leaves (leaves_play ..) (leaves_play ..), hrest⟩

/-! ## The status of an issuer that is set up again -/

/-- **A status settles, and turns with the verdict.**  An issuer with any conditions is set
up once in each round, whatever the builders, the contexts and the clock do.  If all
setups end the same way, then the issuer is after the last of them what it was after the
first, and the recorder was told of each of them or of none.  And from each setup to the
next the Ready entry keeps its place, and its time too unless the verdict has changed. -/
theorem steady_rounds (s : Setup) (issuer : Issuer) (recorder : Recorder) (rs : List Round) :
    let results := s.rounds issuer recorder rs
    results.length = rs.length ∧
      (∀ ending, (∀ r ∈ results, r.1.ending = ending) →
        Settled s issuer recorder ending results) ∧
      results.IsChain Turned :=
  ⟨length_rounds s issuer recorder rs, fun _ hending => settled_rounds rs hending,
    isChain_rounds s issuer recorder rs⟩

/-- An issuer that was never looked at and has two Ready entries all the same. -/
def twiceReady : Issuer where
  kind := .namespaced
  name := "issuer"
  ns := "team"
  conditions := [{ type := "Ready" }, { type := "Approved", status := .holds },
    { type := "Ready", status := .fails, lastTransition := some 5 }]

/-- A setup that starts at the time `now`, and a ping that takes two microseconds and is
not answered. -/
def unanswered (now : Instant) : Round where
  builder := ({ client := { ping := { advance := 2, failure := some (.ofClient "no answer") } } } :
    BuildScript).builder ⟨0, none⟩
  secrets := {}
  ctx := ⟨0, none⟩
  session := { moment := { now := now } }

/-- Setups of an issuer with two Ready entries, the last of them by a clock that was put
back. -/
def unansweredRounds : List (Outcome × Session) :=
  ({ backend := "Venafi", builder := fun _ => pure none, metered := false, logger := {},
     clusterNamespace := "cert-manager" } : Setup).rounds twiceReady
    { capacity := 1, logger := {} } [unanswered 7000, unanswered 9000, unanswered 100]

/-- One Ready entry is left, of the time of the first setup. -/
theorem settled_unansweredRounds :
    (∀ r ∈ unansweredRounds, r.1.ending = some (.ping, "no answer")) ∧
      (∀ r ∈ unansweredRounds, ∀ r' ∈ unansweredRounds, r.1.issuer = r'.1.issuer) ∧
      unansweredRounds.map
          (fun r => r.1.issuer.conditions.map fun c => (c.type, c.lastTransition)) =
        List.replicate 3 [("Ready", some 9000), ("Approved", none)] := by
  have hending : ∀ r ∈ unansweredRounds, r.1.ending = some (.ping, "no answer") := by
    decide +kernel
  exact ⟨hending, ((steady_rounds ..).2.1 _ hending).status, by decide +kernel⟩

end Setup
end IssuerReadiness
