import IssuerReadiness.Proofs.Condition.Writes
import Mathlib.Data.List.DropRight

/-!
# Since when a status is what it is

An entry remembers one time, and after any number of writes this time has to tell when
the status that the entry has now began.  It is carried from entry to entry, through
writes of other types in between, entries that had no time, and lists with several
entries of the type.

Of all that only two things count, the first entry of the type before the first write
and the writes of the type: `find?_writeAll` says that the entry that is found in the
end is the one that `replay` makes of these two.  The last *stretch* of these writes,
as long as it can be, has the status of the last one, and `since_replay` follows the
time through it.

* `Write.over`, `replay`: the entries of one type, without the list around them.
* `find?_perform`, `find?_writeAll`: one write, and many.
* `since_replay`: the time after a replay.
* `Recorded`, `recorded_writeAll`: what a list remembers of its writes.
-/

namespace IssuerReadiness
namespace Condition

/-- The entry that a write leaves in the place of `old?`. -/
def Write.over (w : Write) (old? : Option Condition) : Condition :=
  { w.entry with lastTransition := some (since old? w.status w.now) }

/-- What the writes of one type make of its entry. -/
def replay (old? : Option Condition) (own : List Write) : Option Condition :=
  own.foldl (fun old? w => some (w.over old?)) old?

@[simp] theorem replay_nil (old? : Option Condition) : replay old? [] = old? := rfl

@[simp] theorem replay_cons (old? : Option Condition) (w : Write) (own : List Write) :
    replay old? (w :: own) = replay (some (w.over old?)) own := rfl

theorem replay_append_singleton (old? : Option Condition) (own : List Write) (w : Write) :
    replay old? (own ++ [w]) = some (w.over (replay old? own)) := by
  rw [replay, List.foldl_append]
  rfl

/-! ## One type among others -/

/-- A write of a type changes what is found under this type, and under no other. -/
theorem find?_perform (type : String) (cs : List Condition) (w : Write) :
    find? type (w.perform cs).conditions =
      if w.type = type then some (w.over (find? type cs)) else find? type cs := by
  split
  · next h =>
    subst h
    exact find?_upsert_self cs w.entry w.now
  · next h =>
    have hhead : ∀ l : List Condition, find? type l = (l.filter (·.type == type)).head? :=
      fun l => List.head?_filter.symm
    have hother : ∀ d : Condition, (d.type == type) = true → d.type ≠ w.type :=
      fun d hd hdw => h (hdw.symm.trans (beq_iff_eq.1 hd))
    rw [hhead, hhead, Write.perform, (onlyEntry_upsert cs w.entry w.now).filter_eq hother]

/-- What is found under a type after many writes comes from what was found before and
from the writes of this type. -/
theorem find?_writeAll (type : String) (cs : List Condition) (ws : List Write) :
    find? type (writeAll cs ws) = replay (find? type cs) (ws.filter (·.type == type)) := by
  induction ws generalizing cs with
  | nil => rfl
  | cons w ws ih =>
    rw [writeAll_cons, ih, find?_perform, List.filter_cons]
    by_cases h : w.type = type
    · rw [if_pos h, if_pos (beq_iff_eq.2 h), replay_cons]
    · rw [if_neg h, if_neg fun hbeq => h (beq_iff_eq.1 hbeq)]

/-! ## The time that is carried -/

/-- The time of an entry that has a given status already. -/
def timeWith (old? : Option Condition) (status : ConditionStatus) : Option Instant :=
  (old?.filter (·.status == status)).bind (·.lastTransition)

theorem since_eq_timeWith (old? : Option Condition) (status : ConditionStatus) (now : Instant) :
    since old? status now = (timeWith old? status).getD now := by
  cases old? with
  | none => rfl
  | some old => by_cases h : old.status = status <;> simp [since, timeWith, Option.filter, h]

/-- The last writes of `own` as far back as they all have the status `status`. -/
def stretch (own : List Write) (status : ConditionStatus) : List Write :=
  own.rtakeWhile (·.status == status)

/-- **The time after a replay.**  A write with the status `status` at the time `now` that
follows the writes `own` is dated back to the first write of the stretch before it, and
if there are no other writes, to the time of the entry that was there before them. -/
theorem since_replay (old? : Option Condition) (own : List Write) (status : ConditionStatus)
    (now : Instant) :
    since (replay old? own) status now =
      let start := ((stretch own status).head?.map Write.now).getD now
      if stretch own status = own then (timeWith old? status).getD start else start := by
  induction own using List.reverseRecOn generalizing now with
  | nil => exact since_eq_timeWith old? status now
  | append_singleton own v ih =>
    rw [replay_append_singleton]
    by_cases hv : v.status = status
    · -- the write before has the status, and so the time is the one that it was given
      have hstretch : stretch (own ++ [v]) status = stretch own status ++ [v] :=
        List.rtakeWhile_concat_pos _ _ _ (beq_iff_eq.2 hv)
      have hsince : since (some (v.over (replay old? own))) status now =
          since (replay old? own) status v.now := by
        show (if v.status = status then _ else _) = _
        rw [if_pos hv, ← hv]
        rfl
      have hstart : ((stretch own status ++ [v]).head?.map Write.now).getD now =
          ((stretch own status).head?.map Write.now).getD v.now := by
        cases stretch own status <;> rfl
      rw [hsince, ih, hstretch]
      dsimp only
      rw [hstart]
      refine if_congr ?_ rfl rfl
      exact ⟨fun h => by rw [h], fun h => List.append_cancel_right h⟩
    · -- the write before has another status, and so nothing is carried over it
      have hstretch : stretch (own ++ [v]) status = [] :=
        List.rtakeWhile_concat_neg _ _ _ fun h => hv (beq_iff_eq.1 h)
      have hne : [] ≠ own ++ [v] := fun h => by simpa using congrArg List.length h
      rw [hstretch]
      dsimp only
      rw [if_neg hne]
      exact if_neg hv

/-! ## What is remembered -/

/-- The entry that the writes `own` of a type leave if `old?` was its first entry before
them: the last write, dated back to the `first` write of the stretch that it ends, or
to the time of `old?` if that stretch is all there is and `old?` had the status. -/
structure Settled (old? : Option Condition) (own : List Write) (last first : Write)
    (e : Condition) : Prop where
  isLast : own.getLast? = some last
  isFirst : (stretch own last.status).head? = some first
  entry : e =
    { last.entry with
      lastTransition := some
        (if stretch own last.status = own then (timeWith old? last.status).getD first.now
        else first.now) }

/-- The write without the time that its condition carries. -/
def Write.untimed : Write → Write
  | .condition c now => .condition { c with lastTransition := none } now
  | w => w

/-- What a list of conditions that started as `cs` remembers of a type after the writes
`ws`. -/
structure Recorded (cs : List Condition) (ws : List Write) (type : String) : Prop where
  /-- The entry that is found is the one that the writes of the type leave. -/
  settled : ∃ last first e, find? type (writeAll cs ws) = some e ∧
    Settled (find? type cs) (ws.filter (·.type == type)) last first e
  /-- Each write tells whether there was no entry of its type or the first one had
  another status. -/
  told : ∀ before w after, ws = before ++ w :: after →
    ((w.perform (writeAll cs before)).changed = true ↔
      find? w.type (writeAll cs before) = none ∨
        ∃ old, find? w.type (writeAll cs before) = some old ∧ old.status ≠ w.status)
  /-- The times that the conditions carry do not count. -/
  untimed : writeAll cs (ws.map Write.untimed) = writeAll cs ws
  /-- Neither do other entries and writes of other types. -/
  apart : ∀ cs' ws', find? type cs' = find? type cs →
    ws'.filter (·.type == type) = ws.filter (·.type == type) →
      find? type (writeAll cs' ws') = find? type (writeAll cs ws)

/-- The entry after a replay is settled. -/
theorem settled_replay (old? : Option Condition) (own : List Write) (last : Write) :
    ∃ first e, replay old? (own ++ [last]) = some e ∧ Settled old? (own ++ [last]) last first e := by
  have hstretch : stretch (own ++ [last]) last.status = stretch own last.status ++ [last] :=
    List.rtakeWhile_concat_pos _ _ _ (beq_self_eq_true _)
  have hall : stretch (own ++ [last]) last.status = own ++ [last] ↔
      stretch own last.status = own := by
    rw [hstretch]
    exact ⟨fun h => List.append_cancel_right h, fun h => by rw [h]⟩
  obtain ⟨first, hfirst⟩ : ∃ first, (stretch own last.status ++ [last]).head? = some first := by
    cases stretch own last.status <;> exact ⟨_, rfl⟩
  have hstart : ((stretch own last.status).head?.map Write.now).getD last.now = first.now := by
    cases hs : stretch own last.status <;> rw [hs] at hfirst <;> cases hfirst <;> rfl
  refine ⟨first, last.over (replay old? own), replay_append_singleton old? own last,
    List.getLast?_concat, by rw [hstretch, hfirst], ?_⟩
  rw [Write.over, since_replay]
  dsimp only
  rw [hstart]
  simp only [hall]

/-- A write tells whether the status is a new one. -/
theorem changed_perform_iff (cs : List Condition) (w : Write) :
    (w.perform cs).changed = true ↔
      find? w.type cs = none ∨ ∃ old, find? w.type cs = some old ∧ old.status ≠ w.status := by
  rw [find?_eq_head?_dropWhile]
  unfold Write.perform upsert Write.type
  cases cs.dropWhile (·.type != w.entry.type) with
  | nil => simp
  | cons old after => simp [Write.status]

theorem perform_untimed (cs : List Condition) (w : Write) : w.untimed.perform cs = w.perform cs := by
  cases w <;> rfl

theorem writeAll_untimed (cs : List Condition) (ws : List Write) :
    writeAll cs (ws.map Write.untimed) = writeAll cs ws := by
  induction ws generalizing cs with
  | nil => rfl
  | cons w ws ih => rw [List.map_cons, writeAll_cons, writeAll_cons, perform_untimed, ih]

/-- **The time of an entry is the last change of its status.**  Whatever the list was, and
whichever types were written in whichever order: the entry of a type that was written is
the last write of this type, with the time of the first write of the stretch in which
the status was what it is now, or with the older time if the first entry of the list had
that status before any write changed it. -/
theorem recorded_writeAll (cs : List Condition) (ws : List Write) (type : String)
    (h : type ∈ ws.map Write.type) : Recorded cs ws type where
  settled := by
    obtain ⟨w, hw, htype⟩ := List.mem_map.1 h
    have hmem : w ∈ ws.filter (·.type == type) := List.mem_filter.2 ⟨hw, beq_iff_eq.2 htype⟩
    obtain ⟨own, last, hown⟩ :=
      (List.eq_nil_or_concat (ws.filter (·.type == type))).resolve_left (List.ne_nil_of_mem hmem)
    rw [List.concat_eq_append] at hown
    obtain ⟨first, e, he, hsettled⟩ := settled_replay (find? type cs) own last
    rw [find?_writeAll, hown]
    exact ⟨last, first, e, he, hsettled⟩
  told := fun before w _ _ => changed_perform_iff (writeAll cs before) w
  untimed := writeAll_untimed cs ws
  apart := by
    intro cs' ws' hcs hws
    rw [find?_writeAll, find?_writeAll, hcs, hws]

/-- A list with two entries of a type, the first of which fails since the time 3. -/
def agedList : List Condition :=
  [{ type := "Ready", status := .fails, lastTransition := some 3 }, { type := "Issuing" },
    { type := "Ready", status := .holds }]

/-- The type is written twice with a new status, and another type in between. -/
def agedWrites : List Write :=
  [.ready .holds "started" "" 1 10, .condition { type := "Issuing", status := .holds } 11,
    .ready .holds "started again" "" 1 12]

/-- The second write keeps the time of the first. -/
theorem recorded_agedWrites :
    "Ready" ∈ agedWrites.map Write.type ∧ Recorded agedList agedWrites "Ready" ∧
      find? "Ready" (writeAll agedList agedWrites) = some
        { type := "Ready", status := .holds, reason := "started again",
          lastTransition := some 10, observedGeneration := 1 } :=
  ⟨by decide, recorded_writeAll agedList agedWrites "Ready" (by decide), by decide⟩

end Condition
end IssuerReadiness
