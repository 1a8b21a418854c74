import IssuerReadiness.Keyed

/-!
# Finite maps as sorted lists

A map from texts is kept as a list of pairs in the order of the keys.  The order is what makes
the list and the map the same thing: in a sorted list a key stands once, so that looking for
it finds all there is, and putting the members of a list in one after the other writes over
each key at most once (`find?_insertAll`).

* `Sorted`, `sorted_insertAll`, `sorted_ofList`: the order is kept.
* `find?_insertAll`: a map with the members of another map put over its own.
* `ofList_map`, `find?_map`: maps with other values under the same keys.
* `mem_keys_iff`, `mem_keys_ofList_iff`: the keys of a map.
-/

namespace IssuerReadiness
namespace Keyed

variable {α β : Type} {m : Keyed α}

/-! ## The order of the keys -/

/-- The keys of the list increase. -/
def Sorted (m : Keyed α) : Prop :=
  m.Pairwise fun p q => p.1 < q.1

/-- Puts the members of a list in one after the other. -/
def insertAll (m : Keyed α) (members : List (String × α)) : Keyed α :=
  members.foldl (fun m p => insert p.1 p.2 m) m

theorem lt_of_not_lt_of_ne {k k' : String} (hlt : ¬ k < k') (hne : k ≠ k') : k' < k :=
  Std.lt_of_le_of_ne (String.not_lt.1 hlt) hne.symm

/-- What is put in stands among the members that were there. -/
theorem mem_insert {k : String} {v : α} {p : String × α} (h : p ∈ insert k v m) :
    p = (k, v) ∨ p ∈ m := by
  induction m with
  | nil => exact .inl (List.mem_singleton.1 h)
  | cons q rest ih =>
    obtain ⟨k', v'⟩ := q
    unfold insert at h
    split at h
    · exact List.mem_cons.1 h
    · split at h
      · rcases List.mem_cons.1 h with rfl | hrest
        · exact .inl rfl
        · exact .inr (List.mem_cons_of_mem _ hrest)
      · rcases List.mem_cons.1 h with rfl | hrest
        · exact .inr List.mem_cons_self
        · exact (ih hrest).imp_right (List.mem_cons_of_mem _)

theorem sorted_insert (h : Sorted m) (k : String) (v : α) : Sorted (insert k v m) := by
  induction m with
  | nil => exact List.pairwise_singleton _ _
  | cons q rest ih =>
    obtain ⟨k', v'⟩ := q
    obtain ⟨hfirst, hrest⟩ := List.pairwise_cons.1 h
    unfold insert
    split
    · next hlt =>
      refine List.pairwise_cons.2 ⟨fun p hp => ?_, h⟩
      rcases List.mem_cons.1 hp with rfl | hp
      · exact hlt
      · exact String.lt_trans hlt (hfirst p hp)
    · next hlt =>
      split
      · next heq =>
        subst heq
        exact List.pairwise_cons.2 ⟨hfirst, hrest⟩
      · next hne =>
        refine List.pairwise_cons.2 ⟨fun p hp => ?_, ih hrest⟩
        rcases mem_insert hp with rfl | hp
        · exact lt_of_not_lt_of_ne hlt hne
        · exact hfirst p hp

theorem sorted_insertAll (h : Sorted m) (members : List (String × α)) :
    Sorted (insertAll m members) := by
  induction members generalizing m with
  | nil => exact h
  | cons p members ih => exact ih (sorted_insert h p.1 p.2)

theorem sorted_ofList (members : List (String × α)) : Sorted (ofList members) :=
  sorted_insertAll List.Pairwise.nil members

/-! ## Maps put over maps -/

/-- A key that is less than all others is not among them. -/
theorem find?_eq_none_of_lt {k : String} (h : ∀ p ∈ m, k < p.1) : find? k m = none := by
  induction m with
  | nil => rfl
  | cons q rest ih =>
    obtain ⟨k', v'⟩ := q
    have hne : k' ≠ k := by
      rintro rfl
      exact String.lt_irrefl _ (h _ List.mem_cons_self)
    rw [find?, if_neg hne]
    exact ih fun p hp => h p (List.mem_cons_of_mem _ hp)

/-- **A map put over another one**: a key has the value that it has in the upper map, or else
the one that it has in the lower. -/
theorem find?_insertAll {members : Keyed α} (h : Sorted members) (m : Keyed α) (key : String) :
    find? key (insertAll m members) = (find? key members).or (find? key m) := by
  induction members generalizing m with
  | nil => rfl
  | cons p members ih =>
    obtain ⟨k, v⟩ := p
    obtain ⟨hfirst, hrest⟩ := List.pairwise_cons.1 h
    show find? key (insertAll (insert k v m) members) = _
    rw [ih hrest, find?_insert, find?]
    by_cases hkey : k = key
    · subst hkey
      rw [find?_eq_none_of_lt hfirst, if_pos rfl, if_pos rfl]
      rfl
    · rw [if_neg hkey, if_neg hkey]

/-! ## Other values under the same keys -/

theorem insert_map (f : String → α → β) (k : String) (v : α) (m : Keyed α) :
    insert k (f k v) (m.map fun p => (p.1, f p.1 p.2)) =
      (insert k v m).map fun p => (p.1, f p.1 p.2) := by
  induction m with
  | nil => rfl
  | cons q rest ih =>
    obtain ⟨k', v'⟩ := q
    simp only [insert, List.map_cons, ih]
    split
    · rfl
    · split <;> rfl

/-- The map of a list with other values is the map of the list, with other values. -/
theorem ofList_map (f : String → α → β) (members : List (String × α)) :
    ofList (members.map fun p => (p.1, f p.1 p.2)) =
      (ofList members).map fun p => (p.1, f p.1 p.2) := by
  have hall : ∀ m : Keyed α, insertAll (m.map fun p => (p.1, f p.1 p.2))
      (members.map fun p => (p.1, f p.1 p.2)) =
        (insertAll m members).map fun p => (p.1, f p.1 p.2) := by
    induction members with
    | nil => exact fun _ => rfl
    | cons p members ih =>
      intro m
      show insertAll (insert p.1 (f p.1 p.2) (m.map fun p => (p.1, f p.1 p.2))) _ = _
      rw [insert_map, ih]
      rfl
  exact hall []

theorem find?_map (f : α → β) (m : Keyed α) (key : String) :
    find? key (m.map fun p => (p.1, f p.2)) = (find? key m).map f := by
  induction m with
  | nil => rfl
  | cons q rest ih =>
    simp only [List.map_cons, find?, ih]
    split <;> rfl

/-! ## Keys -/

theorem mem_keys_iff {key : String} : key ∈ m.map Prod.fst ↔ (find? key m).isSome = true := by
  induction m with
  | nil => simp
  | cons q rest ih =>
    rw [List.map_cons, List.mem_cons, find?, ih]
    by_cases hkey : q.1 = key
    · simp [hkey]
    · simp [hkey, Ne.symm hkey]

/-- The map of a list has the keys of the list. -/
theorem mem_keys_ofList_iff {members : List (String × α)} {key : String} :
    key ∈ (ofList members).map Prod.fst ↔ key ∈ members.map Prod.fst := by
  rw [mem_keys_iff, find?_ofList, Option.isSome_map, List.find?_isSome]
  simp

end Keyed
end IssuerReadiness
