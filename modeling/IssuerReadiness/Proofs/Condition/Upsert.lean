import IssuerReadiness.Condition

/-!
# One entry per type

`Condition.upsert` is written as a search with two outcomes: append, or replace the
entry that was found and sweep the rest of the list.  Both outcomes are the same
list, said without the search: what stood before the first entry of the type, the
new entry, and what stood behind it without that type.

* `Condition.since`: the time that the new entry is given.
* `conditions_upsert`: the list after an upsert, in one equation.
* `Condition.OnlyEntry`: what every caller of `upsert` may rely on, with
  `onlyEntry_upsert`.
* `find?_upsert_self`: the view of the new entry through `Condition.find?`.
* `conditions_upsert_upsert`: the list after two upserts of one type.
-/

namespace IssuerReadiness
namespace Condition

/-- Since when an entry has had its status, if it takes the place of `old?` at the
time `now`. -/
def since (old? : Option Condition) (status : ConditionStatus) (now : Instant) : Instant :=
  match old? with
  | none => now
  | some old => if old.status = status then old.lastTransition.getD now else now

@[simp] theorem since_none (status : ConditionStatus) (now : Instant) :
    since none status now = now := rfl

/-- The entry that an upsert of `c` leaves in the list `cs`. -/
def entry (cs : List Condition) (c : Condition) (now : Instant) : Condition :=
  { c with lastTransition := some (since (find? c.type cs) c.status now) }

@[simp] theorem type_entry (cs : List Condition) (c : Condition) (now : Instant) :
    (entry cs c now).type = c.type := rfl

/-- The first entry of a type heads what is left when the entries before it are
dropped. -/
theorem find?_eq_head?_dropWhile (type : String) (cs : List Condition) :
    find? type cs = (cs.dropWhile (·.type != type)).head? := by
  induction cs with
  | nil => rfl
  | cons d cs ih =>
    by_cases h : d.type = type
    · simp [find?, h]
    · have hne : (d.type == type) = false := beq_eq_false_iff_ne.2 h
      rw [find?, List.find?_cons, hne, List.dropWhile_cons, bne, hne]
      exact ih

/-- **The list after an upsert.**  Appending and replacing are one equation, since
what is dropped before the first entry of the type is everything if there is no
such entry. -/
theorem conditions_upsert (cs : List Condition) (c : Condition) (now : Instant) :
    (upsert cs c now).conditions =
      cs.takeWhile (·.type != c.type) ++
        entry cs c now :: (cs.dropWhile (·.type != c.type)).filter (·.type != c.type) := by
  have hhead := find?_eq_head?_dropWhile c.type cs
  unfold upsert entry
  rw [hhead]
  cases hrest : cs.dropWhile (·.type != c.type) with
  | nil =>
    have htake : cs.takeWhile (·.type != c.type) = cs := by
      have hsplit := List.takeWhile_append_dropWhile (p := (·.type != c.type)) (l := cs)
      rwa [hrest, List.append_nil] at hsplit
    simp [htake]
  | cons old after =>
    have hold : (old.type != c.type) = false := by
      have h := List.head?_dropWhile_not (·.type != c.type) cs
      rw [hrest] at h
      simpa using h
    simp only [List.head?_cons, since, List.filter_cons, hold]
    by_cases hstatus : old.status = c.status <;> simp [hstatus]

/-! ## What callers rely on -/

/-- The list `after` is the list `before` with `c` as its only entry of its type: in
the place of the first such entry, or at the end if there was none, and with the
entries of other types as they were. -/
structure OnlyEntry (c : Condition) (before after : List Condition) : Prop where
  entries : after.filter (·.type == c.type) = [c]
  others : after.filter (·.type != c.type) = before.filter (·.type != c.type)
  place : after.takeWhile (·.type != c.type) = before.takeWhile (·.type != c.type)

/-- An upsert leaves its entry as the only one of its type. -/
theorem onlyEntry_upsert (cs : List Condition) (c : Condition) (now : Instant) :
    OnlyEntry (entry cs c now) cs (upsert cs c now).conditions where
  entries := by
    have hbefore : (cs.takeWhile (·.type != c.type)).filter (·.type == c.type) = [] := by
      refine List.filter_eq_nil_iff.2 fun d hd => ?_
      have h := List.all_eq_true.1 List.all_takeWhile d hd
      simpa using h
    have hafter : ((cs.dropWhile (·.type != c.type)).filter (·.type != c.type)).filter
        (·.type == c.type) = [] := by
      refine List.filter_eq_nil_iff.2 fun d hd => ?_
      have h := (List.mem_filter.1 hd).2
      simpa using h
    rw [conditions_upsert, type_entry, List.filter_append, hbefore, List.nil_append,
      List.filter_cons, hafter]
    simp
  others := by
    have hself : ((entry cs c now).type != c.type) = false := by simp
    have hrest : ((cs.dropWhile (·.type != c.type)).filter (·.type != c.type)).filter
        (·.type != c.type) = (cs.dropWhile (·.type != c.type)).filter (·.type != c.type) := by
      simp [List.filter_filter]
    rw [conditions_upsert, type_entry, List.filter_append, List.filter_cons, hself, hrest]
    calc (cs.takeWhile (·.type != c.type)).filter (·.type != c.type) ++
          (cs.dropWhile (·.type != c.type)).filter (·.type != c.type)
        = (cs.takeWhile (·.type != c.type) ++ cs.dropWhile (·.type != c.type)).filter
            (·.type != c.type) := (List.filter_append ..).symm
      _ = cs.filter (·.type != c.type) := by rw [List.takeWhile_append_dropWhile]
  place := by
    rw [conditions_upsert, type_entry, List.takeWhile_append_of_pos,
      List.takeWhile_cons_of_neg (by simp), List.append_nil]
    exact fun d hd => List.all_eq_true.1 List.all_takeWhile d hd

/-- The only entry of a type is the one that is found under it. -/
theorem OnlyEntry.find?_eq {c : Condition} {before after : List Condition}
    (h : OnlyEntry c before after) : find? c.type after = some c := by
  have hfind : find? c.type after = (after.filter (·.type == c.type)).head? :=
    List.head?_filter.symm
  rw [hfind, h.entries, List.head?_cons]

/-- The entry that was put in is found under its type. -/
theorem find?_upsert_self (cs : List Condition) (c : Condition) (now : Instant) :
    find? c.type (upsert cs c now).conditions = some (entry cs c now) :=
  (onlyEntry_upsert cs c now).find?_eq

/-! ## Two upserts of one type -/

/-- What a second upsert finds is the entry of the first, and it puts its own in the same
place.  Of the list before, only the time of that entry is left to matter. -/
theorem conditions_upsert_upsert (cs : List Condition) {c c' : Condition} (h : c'.type = c.type)
    (now now' : Instant) :
    (upsert (upsert cs c now).conditions c' now').conditions =
      cs.takeWhile (·.type != c.type) ++
        { c' with lastTransition := some (since (some (entry cs c now)) c'.status now') } ::
          (cs.dropWhile (·.type != c.type)).filter (·.type != c.type) := by
  have hself : ((entry cs c now).type != c.type) = false := by simp
  have hbefore : ∀ d ∈ cs.takeWhile (·.type != c.type), (d.type != c.type) = true :=
    fun d hd => List.all_eq_true.1 List.all_takeWhile d hd
  have hplace : (upsert cs c now).conditions.takeWhile (·.type != c.type) =
      cs.takeWhile (·.type != c.type) := (onlyEntry_upsert cs c now).place
  have hrest : ((upsert cs c now).conditions.dropWhile (·.type != c.type)).filter
      (·.type != c.type) = (cs.dropWhile (·.type != c.type)).filter (·.type != c.type) := by
    rw [conditions_upsert, List.dropWhile_append_of_pos hbefore,
      List.dropWhile_cons_of_neg (by simp), List.filter_cons, hself]
    simp [List.filter_filter]
  have hentry : entry (upsert cs c now).conditions c' now' =
      { c' with lastTransition := some (since (some (entry cs c now)) c'.status now') } := by
    rw [entry, h, find?_upsert_self]
  rw [conditions_upsert, hentry, h, hplace, hrest]

/-- A condition that is put in again changes nothing, whenever that is. -/
theorem conditions_upsert_again (cs : List Condition) (c : Condition) (now now' : Instant) :
    (upsert (upsert cs c now).conditions c now').conditions = (upsert cs c now).conditions := by
  have hsince : since (some (entry cs c now)) c.status now' =
      since (find? c.type cs) c.status now := if_pos rfl
  rw [conditions_upsert_upsert cs rfl, hsince, conditions_upsert]
  rfl

end Condition
end IssuerReadiness
