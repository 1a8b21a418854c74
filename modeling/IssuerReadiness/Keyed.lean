/-!
# Lists sorted by key

The members of a JSON object, the values of a secret and the statistics of a
metrics sink are finite maps whose members are read in the order of their keys.
`Keyed α` holds them as a list of pairs; `Keyed.insert` keeps the keys strictly
increasing, and so keeps one member per key, the one put in last.

* `Keyed.find?` --- the member under a key.
* `Keyed.insert` --- adds or replaces a member.
* `find?_insert` --- the two together: the view of the map after one insertion.
-/

namespace IssuerReadiness

/-- A finite map from texts, kept as a list of pairs in the order of the keys. -/
abbrev Keyed (α : Type) := List (String × α)

namespace Keyed

variable {α : Type}

/-- The member under key `k`. -/
def find? (k : String) : Keyed α → Option α
  | [] => none
  | (k', v) :: rest => if k' = k then some v else find? k rest

/-- Puts `v` under key `k`, in its place in the order or over the member that
is there. -/
def insert (k : String) (v : α) : Keyed α → Keyed α
  | [] => [(k, v)]
  | (k', v') :: rest =>
      if k < k' then (k, v) :: (k', v') :: rest
      else if k = k' then (k, v) :: rest
      else (k', v') :: insert k v rest

/-- The map that holds each of the given members, later ones over earlier ones
with the same key. -/
def ofList (members : List (String × α)) : Keyed α :=
  members.foldl (fun m p => insert p.1 p.2 m) []

@[simp] theorem find?_nil (k : String) : find? k ([] : Keyed α) = none := rfl

theorem find?_insert (k q : String) (v : α) (m : Keyed α) :
    find? q (insert k v m) = if k = q then some v else find? q m := by
  induction m with
  | nil => simp [insert, find?]
  | cons p rest ih =>
    obtain ⟨k', v'⟩ := p
    by_cases hlt : k < k'
    · simp [insert, hlt, find?]
    · by_cases heq : k = k'
      · subst heq
        by_cases hq : k = q <;> simp [insert, find?, hq]
      · by_cases hq : k' = q
        · subst hq
          simp [insert, hlt, heq, find?]
        · simp [insert, hlt, heq, find?, hq, ih]

/-- A key that was put in is found with its value. -/
@[simp] theorem find?_insert_self (k : String) (v : α) (m : Keyed α) :
    find? k (insert k v m) = some v := by
  simp [find?_insert]

private theorem find?_foldl_insert (q : String) (members : List (String × α)) (m : Keyed α) :
    find? q (members.foldl (fun m p => insert p.1 p.2 m) m) =
      ((members.reverse.find? (·.1 == q)).map (·.2)).or (find? q m) := by
  induction members generalizing m with
  | nil => simp
  | cons p rest ih =>
    rw [List.foldl_cons, ih, find?_insert, List.reverse_cons, List.find?_append]
    cases rest.reverse.find? (·.1 == q) with
    | some r => simp
    | none => by_cases h : p.1 = q <;> simp [h]

/-- Of the members with one key, the last one is kept. -/
theorem find?_ofList (q : String) (members : List (String × α)) :
    find? q (ofList members) = (members.reverse.find? (·.1 == q)).map (·.2) := by
  rw [ofList, find?_foldl_insert]
  simp

end Keyed

end IssuerReadiness
