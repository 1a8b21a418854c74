import IssuerReadiness.Proofs.Condition.Upsert
import Mathlib.Data.List.Nodup

/-!
# Many writes to one list of conditions

A status lives through many writes, in any order and on any types, and may start as
any list.  Of the list that they leave two things can be said without going through
the writes one by one: which entries of other types are in it (all of them, as they
were), and in which order the types stand.

## The order of the types

A write of a type that is in the list leaves the type where it first stood and takes
the later entries away; a write of a type that is not in the list puts it at the end.
Both are one rule: put the type at the end, and then keep of it the first occurrence
only.  Many writes follow the same rule with all written types at once, so that the
induction over them (`map_type_writeAll`) has no cases.

`keepFirst` says "the first occurrence only".  It commutes with `List.filter`, and two
of it in a row are one, which is what the induction needs, since a write acts on what
earlier writes have left.

* `Write`, `Write.perform`, `writeAll`: one write, and one after the other.
* `keepFirst`: a list without the repeated occurrences of some of its members.
* `map_type_perform`: the types after one write.
* `Rewritten`, `rewritten_writeAll`: the list after many writes.
-/

namespace IssuerReadiness

/-! ## First occurrences -/

variable {α : Type} [DecidableEq α]

/-- The list without the later occurrences of those members that satisfy `p`. -/
def keepFirst (p : α → Bool) : List α → List α
  | [] => []
  | a :: l => a :: (keepFirst p l).filter fun b => !(p a && b == a)

@[simp] theorem keepFirst_nil (p : α → Bool) : keepFirst p [] = [] := rfl

theorem keepFirst_cons (p : α → Bool) (a : α) (l : List α) :
    keepFirst p (a :: l) = a :: (keepFirst p l).filter fun b => !(p a && b == a) := rfl

/-- A filter takes all occurrences of a member or none, and so the first one does not
change. -/
theorem keepFirst_filter (p q : α → Bool) (l : List α) :
    keepFirst p (l.filter q) = (keepFirst p l).filter q := by
  induction l with
  | nil => rfl
  | cons a l ih =>
    cases hq : q a with
    | true =>
      rw [List.filter_cons_of_pos hq, keepFirst_cons, keepFirst_cons, List.filter_cons_of_pos hq,
        ih, List.filter_filter, List.filter_filter]
      congr 2
      funext b
      exact Bool.and_comm _ _
    | false =>
      -- what `a` takes away behind it, the filter takes away as well
      have himp : ∀ b, q b = true → (!(p a && b == a)) = true := by
        intro b hb
        have hne : (b == a) = false := beq_eq_false_iff_ne.2 fun h => by
          rw [h, hq] at hb
          exact Bool.false_ne_true hb
        rw [hne, Bool.and_false, Bool.not_false]
      rw [List.filter_cons_of_neg (by rw [hq]; exact Bool.false_ne_true), keepFirst_cons,
        List.filter_cons_of_neg (by rw [hq]; exact Bool.false_ne_true), ih, List.filter_filter]
      refine (List.filter_congr fun b _ => ?_).symm
      cases hb : q b with
      | true => rw [himp b hb, Bool.and_true]
      | false => rw [Bool.false_and]

theorem keepFirst_keepFirst (p q : α → Bool) (l : List α) :
    keepFirst p (keepFirst q l) = keepFirst (fun a => p a || q a) l := by
  induction l with
  | nil => rfl
  | cons a l ih =>
    rw [keepFirst_cons q, keepFirst_cons p, keepFirst_filter, ih, List.filter_filter,
      keepFirst_cons]
    congr 2
    funext b
    cases p a <;> cases q a <;> cases b == a <;> rfl

theorem keepFirst_congr {p q : α → Bool} {l : List α} (h : ∀ a ∈ l, p a = q a) :
    keepFirst p l = keepFirst q l := by
  induction l with
  | nil => rfl
  | cons a l ih =>
    rw [keepFirst_cons, keepFirst_cons, ih fun b hb => h b (List.mem_cons_of_mem a hb),
      h a List.mem_cons_self]

/-- What is kept of a list does not depend on what stands behind it. -/
theorem keepFirst_append (p : α → Bool) (l m : List α) :
    keepFirst p (l ++ m) = keepFirst p l ++ (keepFirst p m).filter fun b => !(p b && b ∈ l) := by
  induction l with
  | nil => simp
  | cons a l ih =>
    rw [List.cons_append, keepFirst_cons, keepFirst_cons, ih, List.filter_append,
      List.filter_filter, List.cons_append]
    congr 3
    funext b
    by_cases hb : b = a
    · subst hb
      cases p b <;> simp
    · simp [hb]

@[simp] theorem mem_keepFirst {p : α → Bool} {a : α} {l : List α} :
    a ∈ keepFirst p l ↔ a ∈ l := by
  induction l with
  | nil => rfl
  | cons b l ih =>
    rw [keepFirst_cons, List.mem_cons, List.mem_cons, List.mem_filter, ih]
    by_cases h : a = b <;> simp [h]

/-- A member that satisfies `p` is kept once, and any other as often as it was there. -/
theorem count_keepFirst (p : α → Bool) (a : α) (l : List α) :
    (keepFirst p l).count a = if p a then min 1 (l.count a) else l.count a := by
  induction l with
  | nil => simp
  | cons b l ih =>
    rw [keepFirst_cons]
    by_cases hb : b = a
    · subst hb
      rw [List.count_cons_self, List.count_cons_self]
      cases hp : p b with
      | true =>
        have hgone : ((keepFirst p l).filter fun c => !(true && c == b)).count b = 0 :=
          List.count_eq_zero.2 fun hmem => by simpa using (List.mem_filter.1 hmem).2
        rw [hgone, if_pos rfl]
        omega
      | false =>
        simp only [Bool.false_and, Bool.not_false, List.filter_true]
        rw [ih, hp]
        rfl
    · have hkept : ((keepFirst p l).filter fun c => !(p b && c == b)).count a =
          (keepFirst p l).count a :=
        List.count_filter (by simp [beq_eq_false_iff_ne.2 (Ne.symm hb)])
      rw [List.count_cons_of_ne hb, List.count_cons_of_ne hb, hkept, ih]

theorem keepFirst_of_forall_not {p : α → Bool} {l : List α} (h : ∀ a ∈ l, p a = false) :
    keepFirst p l = l := by
  induction l with
  | nil => rfl
  | cons a l ih =>
    rw [keepFirst_cons, h a List.mem_cons_self, ih fun b hb => h b (List.mem_cons_of_mem a hb)]
    simp

/-- To keep the first occurrence of everything is to erase duplicates. -/
theorem keepFirst_true (l : List α) : keepFirst (fun _ => true) l = l.eraseDups := by
  match l with
  | [] => rfl
  | a :: l =>
    have hlt : (l.filter fun b => !b == a).length < (a :: l).length :=
      Nat.lt_succ_of_le (List.length_filter_le _ _)
    rw [keepFirst_cons, List.eraseDups_cons, ← keepFirst_true (l.filter fun b => !b == a),
      keepFirst_filter]
    simp only [Bool.true_and]
termination_by l.length
decreasing_by exact hlt

/-- Putting a member in its first place and taking it away behind is to add it at the
end and to keep its first occurrence. -/
theorem keepFirst_append_singleton (l : List α) (a : α) :
    keepFirst (· == a) (l ++ [a]) =
      l.takeWhile (· != a) ++ a :: (l.dropWhile (· != a)).filter (· != a) := by
  induction l with
  | nil => rfl
  | cons b l ih =>
    rw [List.cons_append, keepFirst_cons]
    by_cases hb : b = a
    · subst hb
      have hnone : ∀ c ∈ l.filter (· != b), (c == b) = false := fun c hc => by
        simpa using (List.mem_filter.1 hc).2
      have hbehind : (l ++ [b]).filter (fun c => !((b == b) && c == b)) = l.filter (· != b) := by
        rw [List.filter_append]
        simp [bne]
      rw [← keepFirst_filter, hbehind, keepFirst_of_forall_not hnone,
        List.takeWhile_cons_of_neg (by simp), List.dropWhile_cons_of_neg (by simp),
        List.filter_cons_of_neg (by simp), List.nil_append]
    · have hne : (b == a) = false := beq_eq_false_iff_ne.2 hb
      have hbne : (b != a) = true := bne_iff_ne.2 hb
      have htake : (b :: l).takeWhile (· != a) = b :: l.takeWhile (· != a) :=
        List.takeWhile_cons_of_pos hbne
      have hdrop : (b :: l).dropWhile (· != a) = l.dropWhile (· != a) :=
        List.dropWhile_cons_of_pos hbne
      rw [htake, hdrop, List.cons_append, ← ih, hne]
      simp

namespace Condition

/-! ## Writes -/

/-- A write to a list of conditions: of any condition, or of the one that says whether
an issuer can be used. -/
inductive Write where
  | condition (c : Condition) (now : Instant)
  | ready (status : ConditionStatus) (reason message : String) (generation : Int) (now : Instant)
  deriving DecidableEq, Repr

namespace Write

/-- The condition that is put in. -/
def entry : Write → Condition
  | .condition c _ => c
  | .ready status reason message generation _ => Condition.ready status reason message generation

/-- The time of a write. -/
def now : Write → Instant
  | .condition _ now => now
  | .ready _ _ _ _ now => now

/-- The type that is written. -/
def type (w : Write) : String := w.entry.type

/-- The status that is written. -/
def status (w : Write) : ConditionStatus := w.entry.status

/-- Does a write. -/
def perform (cs : List Condition) (w : Write) : Upsert :=
  upsert cs w.entry w.now

end Write

/-- Does writes one after the other. -/
def writeAll (cs : List Condition) (ws : List Write) : List Condition :=
  ws.foldl (fun cs w => (w.perform cs).conditions) cs

@[simp] theorem writeAll_nil (cs : List Condition) : writeAll cs [] = cs := rfl

@[simp] theorem writeAll_cons (cs : List Condition) (w : Write) (ws : List Write) :
    writeAll cs (w :: ws) = writeAll (w.perform cs).conditions ws := rfl

/-! ## The order of the types -/

/-- The types of the list after one write. -/
theorem map_type_perform (cs : List Condition) (w : Write) :
    (w.perform cs).conditions.map (·.type) =
      keepFirst (· == w.type) (cs.map (·.type) ++ [w.type]) := by
  rw [keepFirst_append_singleton, List.takeWhile_map, List.dropWhile_map, List.filter_map,
    Write.perform, conditions_upsert, List.map_append, List.map_cons, type_entry]
  rfl

/-- The types of the list after many writes. -/
theorem map_type_writeAll (cs : List Condition) (ws : List Write) :
    (writeAll cs ws).map (·.type) =
      keepFirst (· ∈ ws.map Write.type) (cs.map (·.type) ++ ws.map Write.type) := by
  induction ws generalizing cs with
  | nil =>
    have hnone : ∀ t ∈ cs.map (·.type), decide (t ∈ ([] : List String)) = false := by simp
    rw [writeAll_nil, List.map_nil, List.append_nil, keepFirst_of_forall_not hnone]
  | cons w ws ih =>
    generalize hts : cs.map (·.type) = ts
    generalize hus : ws.map Write.type = us at ih
    have hsplit : ts ++ w.type :: us = (ts ++ [w.type]) ++ us := by
      rw [List.append_assoc, List.singleton_append]
    have hall : keepFirst (· ∈ us) us = keepFirst (· ∈ w.type :: us) us :=
      keepFirst_congr fun t ht => by simp [ht]
    rw [writeAll_cons, ih, map_type_perform, hts, List.map_cons, hus, hsplit,
      keepFirst_append _ (keepFirst _ _), keepFirst_append _ (ts ++ [w.type]), keepFirst_keepFirst,
      hall]
    congr 1
    · refine congrArg (keepFirst · _) (funext fun t => ?_)
      by_cases ht : t = w.type <;> simp [ht]
    · refine List.filter_congr fun t ht => ?_
      have hmem : t ∈ us := mem_keepFirst.1 ht
      simp [hmem]

/-! ## The list after many writes -/

/-- A write changes no entry of another type. -/
theorem OnlyEntry.filter_eq {c : Condition} {before after : List Condition}
    (h : OnlyEntry c before after) {p : Condition → Bool} (hp : ∀ d, p d = true → d.type ≠ c.type) :
    after.filter p = before.filter p := by
  have hsub : ∀ l : List Condition, l.filter p = (l.filter (·.type != c.type)).filter p := by
    intro l
    rw [List.filter_filter]
    refine List.filter_congr fun d _ => ?_
    cases hd : p d with
    | true => simp [hp d hd]
    | false => rfl
  rw [hsub, h.others, ← hsub]

/-- Writes change no entry of a type that is not written. -/
theorem filter_writeAll (cs : List Condition) (ws : List Write) :
    (writeAll cs ws).filter (·.type ∉ ws.map Write.type) =
      cs.filter (·.type ∉ ws.map Write.type) := by
  suffices h : ∀ p : Condition → Bool, (∀ d, p d = true → ∀ w ∈ ws, d.type ≠ w.type) →
      (writeAll cs ws).filter p = cs.filter p by
    refine h _ fun d hd w hw hdw => ?_
    exact of_decide_eq_true hd (hdw ▸ List.mem_map_of_mem hw)
  intro p hp
  induction ws generalizing cs with
  | nil => rfl
  | cons w ws ih =>
    rw [writeAll_cons, ih _ fun d hd v hv => hp d hd v (List.mem_cons_of_mem w hv)]
    exact (onlyEntry_upsert cs w.entry w.now).filter_eq fun d hd => hp d hd w List.mem_cons_self

/-- What the writes `ws` make of the list `before`. -/
structure Rewritten (ws : List Write) (before after : List Condition) : Prop where
  /-- Every type that is written has one entry. -/
  once : ∀ w ∈ ws, (after.map (·.type)).count w.type = 1
  /-- The entries of the types that are not written are there as they were. -/
  others : after.filter (·.type ∉ ws.map Write.type) = before.filter (·.type ∉ ws.map Write.type)
  /-- The types stand where they first stood, and the new ones behind them in the order
  in which they were first written. -/
  order : after.map (·.type) =
    keepFirst (· ∈ ws.map Write.type) (before.map (·.type)) ++
      (ws.map Write.type).eraseDups.filter (· ∉ before.map (·.type))
  /-- If no type had two entries, none has. -/
  distinct : (before.map (·.type)).Nodup → (after.map (·.type)).Nodup

/-- **The list after many writes.**  Whatever the list is, and whichever types are
written in whichever order and at whichever times: every type that was written has one
entry, the entries of other types are as they were, and the types stand in the order in
which they stood, only the first occurrence being left of those that were written, with
the types that are new at the end. -/
theorem rewritten_writeAll (cs : List Condition) (ws : List Write) :
    Rewritten ws cs (writeAll cs ws) where
  once := by
    intro w hw
    have hmem : w.type ∈ ws.map Write.type := List.mem_map_of_mem hw
    have hpos : 0 < (cs.map (·.type) ++ ws.map Write.type).count w.type :=
      List.count_pos_iff.2 (List.mem_append_right _ hmem)
    rw [map_type_writeAll, count_keepFirst, if_pos (decide_eq_true hmem)]
    omega
  others := filter_writeAll cs ws
  order := by
    have hall : keepFirst (· ∈ ws.map Write.type) (ws.map Write.type) =
        keepFirst (fun _ => true) (ws.map Write.type) :=
      keepFirst_congr fun t ht => decide_eq_true ht
    rw [map_type_writeAll, keepFirst_append, hall, keepFirst_true]
    congr 1
    refine List.filter_congr fun t ht => ?_
    rw [decide_eq_true (List.mem_eraseDups.1 ht), Bool.true_and, decide_not]
  distinct := by
    intro h
    rw [map_type_writeAll, List.nodup_iff_count_le_one]
    intro t
    rw [count_keepFirst]
    split
    · exact Nat.min_le_left 1 _
    · next ht =>
      have hzero : (ws.map Write.type).count t = 0 :=
        List.count_eq_zero.2 fun hmem => ht (decide_eq_true hmem)
      rw [List.count_append, hzero, Nat.add_zero]
      exact List.nodup_iff_count_le_one.1 h t

/-- A list with two entries of a type: the write takes the second one away, and the
type that is new goes to the end. -/
example :
    let entry (type : String) : Condition := { type := type }
    (writeAll [entry "A", entry "B", entry "A", entry "B"]
      [.ready .holds "" "" 0 5, .condition (entry "A") 6]).map (·.type) =
        ["A", "B", "B", "Ready"] := by
  decide

end Condition
end IssuerReadiness
