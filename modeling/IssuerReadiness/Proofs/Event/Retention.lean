import Mathlib.Data.List.Induction
import IssuerReadiness.Event

/-!
# Which events are kept

A recorder is asked for two things: to record an event, and to give out what it has.  It is
full once it has as many events as its capacity, and an event that comes then is lost.
Nothing else is: each event is either among those that were given out or are still there,
or it is one of those that were counted as lost, and which of the two it is does not depend
on the events themselves.

## Rounds

A drain leaves a recorder as empty as it was at the start, so a history of requests falls into
rounds that end with a drain each, and every round begins with the whole capacity.  Within a
round the number of events grows with each one that is accepted, so those that are accepted
are the first ones of the round, as many as there is room for
(`Recorder.accepted_eq_take`), and the order in which they came is the order in which they
are given out (`Recorder.flatten_drained_append`).

* `Recorder.Request`, `Recorder.after`: what is asked of a recorder, and what becomes of it.
* `Recorder.accepted`, `Recorder.drained`: the events that were accepted, and those that
  were given out.
* `Recorder.accounted_after`: the accounts of a recorder, for any requests.
-/

namespace IssuerReadiness
namespace Recorder

/-! ## Requests -/

/-- What is asked of a recorder: to record an event of an issuer at some time, or to give
out the events. -/
inductive Request where
  | record (issuer : Issuer) (type : EventType) (reason message : String) (now : Instant)
  | drain

/-- The event that is to be recorded: it happens to the issuer when it is asked for. -/
def Request.event? : Request → Option Event
  | .record issuer type reason message now =>
      some
        { type := type, reason := reason, message := message, kind := issuer.kind,
          ns := issuer.ns, name := issuer.name, time := now }
  | .drain => none

/-- The events that were to be recorded. -/
def told (requests : List Request) : List Event :=
  requests.flatMap fun q => q.event?.toList

/-- The recorder after one request. -/
def serve (r : Recorder) : Request → Recorder
  | .record issuer type reason message now => r.record (.of issuer type reason message now)
  | .drain => r.drain.2

/-- The recorder after many requests. -/
def after (r : Recorder) (requests : List Request) : Recorder :=
  requests.foldl serve r

/-- The event that a request has recorded: none if one more is counted as lost. -/
def taken (r : Recorder) (q : Request) : List Event :=
  if (r.serve q).dropped = r.dropped then q.event?.toList else []

/-- What is given out on a request: nothing unless it is a drain. -/
def given (r : Recorder) : Request → List (List Event)
  | .record .. => []
  | .drain => [r.drain.1]

/-- The events that were recorded on many requests, in order. -/
def accepted (r : Recorder) : List Request → List Event
  | [] => []
  | q :: rest => r.taken q ++ (r.serve q).accepted rest

/-- What the drains among many requests have given out, in order. -/
def drained (r : Recorder) : List Request → List (List Event)
  | [] => []
  | q :: rest => r.given q ++ (r.serve q).drained rest

/-! ## One request -/

variable {r : Recorder}

theorem record_of_room (h : r.events.length < r.capacity) (e : Event) :
    r.record e = { r with events := r.events ++ [e] } := by
  have hroom : r.isFull = false := decide_eq_false (Nat.not_le.2 h)
  rw [record, hroom, if_neg Bool.false_ne_true]

theorem record_of_full (h : r.capacity ≤ r.events.length) (e : Event) :
    r.record e = { r with dropped := r.dropped + 1 } := by
  have hfull : r.isFull = true := decide_eq_true h
  rw [record, hfull, if_pos rfl]

/-- An event is counted as lost if and only if the recorder is full. -/
theorem dropped_record_ne_iff (r : Recorder) (e : Event) :
    (r.record e).dropped ≠ r.dropped ↔ r.capacity ≤ r.events.length := by
  rcases Nat.lt_or_ge r.events.length r.capacity with hroom | hfull
  · rw [record_of_room hroom]
    exact iff_of_false (fun h => h rfl) (Nat.not_le.2 hroom)
  · rw [record_of_full hfull]
    exact iff_of_true (Nat.succ_ne_self _) hfull

/-- What can become of a request: its event is kept, or it is lost, or all events are given
out. -/
theorem serve_cases (r : Recorder) (q : Request) :
    (∃ e, q.event? = some e ∧ r.events.length < r.capacity ∧ r.given q = [] ∧
      r.taken q = [e] ∧ r.serve q = { r with events := r.events ++ [e] }) ∨
    (∃ e, q.event? = some e ∧ r.capacity ≤ r.events.length ∧ r.given q = [] ∧
      r.taken q = [] ∧ r.serve q = { r with dropped := r.dropped + 1 }) ∨
    (q = .drain ∧ r.given q = [r.events] ∧ r.taken q = [] ∧
      r.serve q = { r with events := [] }) := by
  cases q with
  | record issuer type reason message now =>
    rcases Nat.lt_or_ge r.events.length r.capacity with hroom | hfull
    · have hserve := record_of_room hroom (.of issuer type reason message now)
      refine .inl ⟨_, rfl, hroom, rfl, ?_, hserve⟩
      rw [taken, serve, hserve]
      exact if_pos rfl
    · have hserve := record_of_full hfull (.of issuer type reason message now)
      refine .inr (.inl ⟨_, rfl, hfull, rfl, ?_, hserve⟩)
      rw [taken, serve, hserve]
      exact if_neg (Nat.succ_ne_self _)
  | drain => exact .inr (.inr ⟨rfl, rfl, if_pos rfl, rfl⟩)

/-- A recorder that never had more events than its capacity never gets them. -/
theorem length_serve_le (h : r.events.length ≤ r.capacity) (q : Request) :
    (r.serve q).events.length ≤ (r.serve q).capacity := by
  rcases r.serve_cases q with ⟨e, -, hroom, -, -, hserve⟩ | ⟨e, -, -, -, -, hserve⟩ |
    ⟨-, -, -, hserve⟩
  · rw [hserve]
    show (r.events ++ [e]).length ≤ r.capacity
    rw [List.length_append, List.length_singleton]
    exact hroom
  · rw [hserve]
    exact h
  · rw [hserve]
    exact Nat.zero_le _

theorem capacity_serve (r : Recorder) (q : Request) : (r.serve q).capacity = r.capacity := by
  rcases r.serve_cases q with ⟨e, -, -, -, -, hserve⟩ | ⟨e, -, -, -, -, hserve⟩ |
    ⟨-, -, -, hserve⟩ <;>
    rw [hserve]

/-- What is given out and what is left are the events that were there before, and then the
new one. -/
theorem flatten_given_append (r : Recorder) (q : Request) :
    (r.given q).flatten ++ (r.serve q).events = r.events ++ r.taken q := by
  rcases r.serve_cases q with ⟨e, -, -, hgiven, htaken, hserve⟩ |
    ⟨e, -, -, hgiven, htaken, hserve⟩ | ⟨-, hgiven, htaken, hserve⟩
  · rw [hgiven, htaken, hserve]
    rfl
  · rw [hgiven, htaken, hserve, List.append_nil]
    rfl
  · rw [hgiven, htaken, hserve, List.append_nil, List.append_nil, List.flatten_singleton]

/-- An event is accepted or counted. -/
theorem length_taken_add (r : Recorder) (q : Request) :
    (r.taken q).length + (r.serve q).dropped = r.dropped + q.event?.toList.length := by
  rcases r.serve_cases q with ⟨e, hevent, -, -, htaken, hserve⟩ |
    ⟨e, hevent, -, -, htaken, hserve⟩ | ⟨rfl, -, htaken, hserve⟩
  · rw [htaken, hserve, hevent]
    exact Nat.add_comm ..
  · rw [htaken, hserve, hevent]
    exact Nat.zero_add _
  · rw [htaken, hserve]
    exact Nat.zero_add _

theorem taken_sublist (r : Recorder) (q : Request) : (r.taken q).Sublist q.event?.toList := by
  unfold taken
  split
  · exact .refl _
  · exact List.nil_sublist _

/-! ## Many requests -/

theorem after_append (r : Recorder) (requests more : List Request) :
    r.after (requests ++ more) = (r.after requests).after more :=
  List.foldl_append

theorem capacity_after (r : Recorder) (requests : List Request) :
    (r.after requests).capacity = r.capacity := by
  induction requests generalizing r with
  | nil => rfl
  | cons q rest ih => exact (ih (r.serve q)).trans (r.capacity_serve q)

theorem length_after_le (h : r.events.length ≤ r.capacity) (requests : List Request) :
    (r.after requests).events.length ≤ (r.after requests).capacity := by
  induction requests generalizing r with
  | nil => exact h
  | cons q rest ih => exact ih (length_serve_le h q)

/-- What was given out, and then what is still there, are the events that were there at the
start, and then those that were accepted. -/
theorem flatten_drained_append (r : Recorder) (requests : List Request) :
    (r.drained requests).flatten ++ (r.after requests).events =
      r.events ++ r.accepted requests := by
  induction requests generalizing r with
  | nil => exact (List.append_nil _).symm
  | cons q rest ih =>
    calc (r.given q ++ (r.serve q).drained rest).flatten ++ ((r.serve q).after rest).events
        = (r.given q).flatten ++
            (((r.serve q).drained rest).flatten ++ ((r.serve q).after rest).events) := by
          rw [List.flatten_append, List.append_assoc]
      _ = (r.given q).flatten ++ (r.serve q).events ++ (r.serve q).accepted rest := by
          rw [ih, List.append_assoc]
      _ = r.events ++ (r.taken q ++ (r.serve q).accepted rest) := by
          rw [flatten_given_append, List.append_assoc]

/-- Every event was accepted or counted. -/
theorem length_accepted_add (r : Recorder) (requests : List Request) :
    (r.accepted requests).length + (r.after requests).dropped =
      r.dropped + (told requests).length := by
  induction requests generalizing r with
  | nil => exact Nat.add_comm ..
  | cons q rest ih =>
    have hone := r.length_taken_add q
    have hrest := ih (r.serve q)
    show (r.taken q ++ (r.serve q).accepted rest).length + ((r.serve q).after rest).dropped =
      r.dropped + (q.event?.toList ++ told rest).length
    rw [List.length_append, List.length_append]
    omega

/-- The accepted events come in the order in which they were to be recorded. -/
theorem accepted_sublist (r : Recorder) (requests : List Request) :
    (r.accepted requests).Sublist (told requests) := by
  induction requests generalizing r with
  | nil => exact .refl _
  | cons q rest ih => exact (r.taken_sublist q).append (ih (r.serve q))

/-! ## Rounds -/

variable {requests : List Request}

/-- Without a drain, all that was accepted is still there. -/
theorem events_after_of_notMem (h : Request.drain ∉ requests) (r : Recorder) :
    (r.after requests).events = r.events ++ r.accepted requests := by
  have hdrained : r.drained requests = [] := by
    induction requests generalizing r with
    | nil => rfl
    | cons q rest ih =>
      rw [List.mem_cons, not_or] at h
      have hgiven : r.given q = [] := by
        cases q with
        | record => rfl
        | drain => exact absurd rfl h.1
      rw [drained, hgiven, ih h.2]
      rfl
  rw [← flatten_drained_append, hdrained]
  rfl

/-- Without a drain, those events are accepted that come first, as many as there is room
for. -/
theorem accepted_eq_take (h : Request.drain ∉ requests) (r : Recorder) :
    r.accepted requests = (told requests).take (r.capacity - r.events.length) := by
  induction requests generalizing r with
  | nil => exact List.take_nil.symm
  | cons q rest ih =>
    rw [List.mem_cons, not_or] at h
    have hrest := ih h.2 (r.serve q)
    show r.taken q ++ (r.serve q).accepted rest = (q.event?.toList ++ told rest).take _
    rcases r.serve_cases q with ⟨e, hevent, hroom, -, htaken, hserve⟩ |
      ⟨e, hevent, hfull, -, htaken, hserve⟩ | ⟨rfl, -⟩
    · have hspace : r.capacity - r.events.length = r.capacity - (r.events ++ [e]).length + 1 := by
        rw [List.length_append, List.length_singleton]
        omega
      rw [hserve] at hrest
      rw [htaken, hserve, hrest, hevent, hspace]
      rfl
    · have hspace : r.capacity - r.events.length = 0 := Nat.sub_eq_zero_of_le hfull
      rw [hserve] at hrest
      rw [htaken, hserve, hrest, hspace, List.take_zero, List.take_zero]
      rfl
    · exact absurd rfl h.1

/-- The last round of some requests: those since the last drain, or since the start. -/
structure LastRound (requests earlier round : List Request) : Prop where
  eq_append : requests = earlier ++ round
  begins : earlier = [] ∨ ∃ before, earlier = before ++ [.drain]
  notMem : Request.drain ∉ round

theorem exists_lastRound (requests : List Request) :
    ∃ earlier round, LastRound requests earlier round := by
  induction requests using List.reverseRecOn with
  | nil => exact ⟨[], [], rfl, .inl rfl, List.not_mem_nil⟩
  | append_singleton before q ih =>
    cases q with
    | drain => exact ⟨_, [], (List.append_nil _).symm, .inr ⟨before, rfl⟩, List.not_mem_nil⟩
    | record issuer type reason message now =>
      obtain ⟨earlier, round, rfl, hbegins, hnone⟩ := ih
      refine ⟨earlier, round ++ [_], List.append_assoc .., hbegins, fun hmem => ?_⟩
      rcases List.mem_append.1 hmem with hmem | hmem
      · exact hnone hmem
      · cases List.mem_singleton.1 hmem

/-- A round begins without events. -/
theorem LastRound.events_eq_nil {earlier round : List Request}
    (h : LastRound requests earlier round) (hstart : r.events = []) :
    (r.after earlier).events = [] := by
  rcases h.begins with rfl | ⟨before, rfl⟩
  · exact hstart
  · rw [after_append]
    rfl

/-- What is there at the end of a round was accepted in it. -/
theorem LastRound.events_after {earlier round : List Request}
    (h : LastRound requests earlier round) (hstart : r.events = []) :
    (r.after requests).events = (r.after earlier).accepted round := by
  rw [h.eq_append, after_append, events_after_of_notMem h.notMem, h.events_eq_nil hstart,
    List.nil_append]

/-! ## The accounts -/

/-- The accounts of a recorder with room for so many events, after some requests since
its start. -/
structure Accounted (capacity : Nat) (start : Recorder) (requests : List Request) : Prop where
  /-- There are never more events than there is room for. -/
  length_le : (start.after requests).events.length ≤ capacity
  /-- Since the last drain the first events were accepted, as many as there is room for, and
  one more is lost if and only if these are as many as the capacity. -/
  round : ∃ earlier round, LastRound requests earlier round ∧
    (start.after earlier).accepted round = (told round).take capacity ∧
    ∀ e, ((start.after requests).record e).dropped ≠ (start.after requests).dropped ↔
      ((start.after earlier).accepted round).length = capacity
  /-- An event that is lost is counted, and changes nothing else. -/
  lost : ∀ e, ((start.after requests).record e).dropped ≠ (start.after requests).dropped →
    (start.after requests).record e =
      { start.after requests with dropped := (start.after requests).dropped + 1 }
  /-- The accepted events were given out in order, and the last ones are still there. -/
  order : (start.drained requests).flatten ++ (start.after requests).events =
    start.accepted requests
  /-- They are events that were to be recorded, in the same order. -/
  sublist : (start.accepted requests).Sublist (told requests)
  /-- All other events are counted. -/
  total : (start.accepted requests).length + (start.after requests).dropped =
    (told requests).length
  /-- A drain gives out all events that are there, and changes nothing else. -/
  drain : (start.after requests).drain =
    ((start.after requests).events, { start.after requests with events := [] })

/-- **Nothing is lost but what is counted.**  A recorder can be made with any capacity but
zero, and is empty at first.  Whatever it is asked then, it never has more events than its
capacity.  An event is lost if and only if as many events as the capacity were accepted since
the last drain, and then it is counted and nothing else changes.  What the drains have given
out, and then what is still there, are the accepted events as they were told, in the same
order, and together with the lost ones they are all. -/
theorem accounted_after (capacity : Nat) (hcapacity : 1 ≤ capacity) (logger : Logger) :
    ∃ start, create capacity logger = .ok start ∧ start.capacity = capacity ∧ start.events = [] ∧
      start.dropped = 0 ∧ ∀ requests, Accounted capacity start requests := by
  let start : Recorder := { capacity := capacity, logger := logger }
  have hcreate : create capacity logger = .ok start := if_neg (Nat.ne_of_gt hcapacity)
  refine ⟨start, hcreate, rfl, rfl, rfl, fun requests => ?_⟩
  have hlength : (start.after requests).events.length ≤ capacity := by
    have hle := length_after_le (r := start) (Nat.zero_le _) requests
    rwa [capacity_after] at hle
  obtain ⟨earlier, round, hround⟩ := exists_lastRound requests
  have hevents := hround.events_after (r := start) rfl
  exact {
    length_le := hlength
    round := by
      refine ⟨earlier, round, hround, ?_, fun e => ?_⟩
      · rw [accepted_eq_take hround.notMem, capacity_after, hround.events_eq_nil rfl]
        rfl
      · rw [dropped_record_ne_iff, capacity_after, ← hevents]
        exact ⟨Nat.le_antisymm hlength, fun heq => Nat.le_of_eq heq.symm⟩
    lost := fun e he => record_of_full ((dropped_record_ne_iff _ e).1 he) e
    order := start.flatten_drained_append requests
    sublist := start.accepted_sublist requests
    total := (start.length_accepted_add requests).trans (Nat.zero_add _)
    drain := rfl }

theorem accounted_twoPlaces :
    1 ≤ 2 ∧ ∃ start, create 2 {} = .ok start ∧ start.capacity = 2 ∧ start.events = [] ∧
      start.dropped = 0 ∧ ∀ requests, Accounted 2 start requests :=
  ⟨by decide, accounted_after 2 (by decide) {}⟩

/-- Three events for two places, a drain, and one event more. -/
def crowded : List Request :=
  let tell (message : String) (now : Instant) : Request :=
    .record { kind := .cluster, name := "venafi" } .normal Event.readyReason message now
  [tell "first" 1, tell "second" 2, tell "third" 3, .drain, tell "fourth" 4]

example :
    let start : Recorder := { capacity := 2 }
    (start.drained crowded).map (List.map Event.message) = [["first", "second"]] ∧
      (start.after crowded).events.map Event.time = [4] ∧ (start.after crowded).dropped = 1 := by
  decide

end Recorder
end IssuerReadiness
