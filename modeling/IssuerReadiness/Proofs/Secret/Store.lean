import Mathlib.Data.Finset.Card
import IssuerReadiness.Secret

/-!
# What a store of secrets holds

A store is asked with `SecretStore.get?`, by namespace and name, and what it holds is
a list of secrets.  The two agree, since no two secrets of a store share namespace and
name: a store starts empty, and adding a secret takes the one away that it replaces.
So what can be asked of one namespace depends on the secrets of that namespace, and on
nothing else that the store holds.

* `Distinct`, `distinct_addAll`: a store holds one secret of a namespace and a name.
* `get?_eq_some_iff`: what is found is what is held.
* `SameIn`, `SameIn.get?_eq`: stores with the same secrets in one namespace.
* `within`, `get?_within`: a store that holds nothing else.
* `get?_addAll`, `size_addAll`: a store after secrets were added to it one after the other.
-/

namespace IssuerReadiness

/-- The namespace and the name of a secret. -/
def Secret.place (secret : Secret) : String × String :=
  (secret.ns, secret.name)

namespace SecretStore

variable {store store' : SecretStore} {secret : Secret} {ns name : String}

/-- No two secrets of the store share namespace and name. -/
def Distinct (store : SecretStore) : Prop :=
  store.secrets.Pairwise fun a b => ¬ (a.ns = b.ns ∧ a.name = b.name)

theorem isAt_iff : secret.isAt ns name = true ↔ secret.ns = ns ∧ secret.name = name := by
  rw [Secret.isAt, Bool.and_eq_true, beq_iff_eq, beq_iff_eq]

theorem distinct_empty : Distinct {} :=
  List.Pairwise.nil

theorem distinct_add (h : store.Distinct) (secret : Secret) : (store.add secret).Distinct := by
  refine List.pairwise_cons.2 ⟨fun other hother => ?_, h.filter _⟩
  intro hkey
  have hkept := (List.mem_filter.1 hother).2
  rw [isAt_iff.2 ⟨hkey.1.symm, hkey.2.symm⟩] at hkept
  cases hkept

theorem distinct_addAll (h : store.Distinct) (secrets : List Secret) :
    (store.addAll secrets).Distinct := by
  induction secrets generalizing store with
  | nil => exact h
  | cons secret secrets ih => exact ih (distinct_add h secret)

/-- What is found is held under that namespace and name. -/
theorem mem_of_get? (h : store.get? ns name = some secret) :
    secret ∈ store.secrets ∧ secret.ns = ns ∧ secret.name = name := by
  unfold get? at h
  have hat : secret.isAt ns name = true := by simpa using List.find?_some h
  exact ⟨List.mem_of_find?_eq_some h, isAt_iff.1 hat⟩

/-- What is held is found, since no other secret is in its way. -/
theorem get?_of_mem (h : store.Distinct) (hmem : secret ∈ store.secrets) :
    store.get? secret.ns secret.name = some secret := by
  obtain ⟨secrets⟩ := store
  unfold get? Distinct at *
  dsimp only at h hmem ⊢
  induction secrets with
  | nil => cases hmem
  | cons other secrets ih =>
    obtain ⟨hother, hrest⟩ := List.pairwise_cons.1 h
    rcases List.mem_cons.1 hmem with rfl | hmem
    · exact List.find?_cons_of_pos (isAt_iff.2 ⟨rfl, rfl⟩)
    · have hne : other.isAt secret.ns secret.name = false :=
        Bool.eq_false_iff.2 fun hat => hother secret hmem (isAt_iff.1 hat)
      rw [List.find?_cons, hne]
      exact ih hrest hmem

theorem get?_eq_some_iff (h : store.Distinct) :
    store.get? ns name = some secret ↔
      secret ∈ store.secrets ∧ secret.ns = ns ∧ secret.name = name := by
  constructor
  · exact mem_of_get?
  · rintro ⟨hmem, rfl, rfl⟩
    exact get?_of_mem h hmem

/-! ## One namespace -/

/-- The two stores hold the same secrets in a namespace. -/
structure SameIn (ns : String) (store store' : SecretStore) : Prop where
  forth : ∀ secret ∈ store.secrets, secret.ns = ns → secret ∈ store'.secrets
  back : ∀ secret ∈ store'.secrets, secret.ns = ns → secret ∈ store.secrets

theorem SameIn.mem_iff (h : SameIn ns store store') (hns : secret.ns = ns) :
    secret ∈ store.secrets ↔ secret ∈ store'.secrets :=
  ⟨fun hmem => h.forth secret hmem hns, fun hmem => h.back secret hmem hns⟩

/-- Stores with the same secrets in a namespace give the same answers for it. -/
theorem SameIn.get?_eq (h : SameIn ns store store') (hd : store.Distinct) (hd' : store'.Distinct)
    (name : String) : store.get? ns name = store'.get? ns name := by
  refine Option.ext fun secret => ?_
  rw [get?_eq_some_iff hd, get?_eq_some_iff hd']
  constructor
  · rintro ⟨hmem, hns, hname⟩
    exact ⟨(h.mem_iff hns).1 hmem, hns, hname⟩
  · rintro ⟨hmem, hns, hname⟩
    exact ⟨(h.mem_iff hns).2 hmem, hns, hname⟩

/-- The secrets of one namespace. -/
def within (store : SecretStore) (ns : String) : SecretStore :=
  ⟨store.secrets.filter (·.ns == ns)⟩

/-- For its own namespace, the secrets of a namespace are all there is. -/
theorem get?_within (store : SecretStore) (ns name : String) :
    (store.within ns).get? ns name = store.get? ns name := by
  unfold get? within
  rw [List.find?_filter]
  refine congrArg (List.find? · store.secrets) (funext fun secret => ?_)
  rw [Bool.eq_iff_iff, decide_eq_true_iff, isAt_iff, beq_iff_eq]
  exact ⟨fun h => h.2, fun h => ⟨h.1, h⟩⟩

/-! ## Secrets added one after the other -/

/-- **The last secret of a place is found there**, and if none was added, the one that was
there before. -/
theorem get?_addAll (store : SecretStore) (secrets : List Secret) (ns name : String) :
    (store.addAll secrets).get? ns name =
      (secrets.filter fun secret => secret.ns = ns ∧ secret.name = name).getLast?.or
        (store.get? ns name) := by
  induction secrets using List.reverseRecOn with
  | nil => rfl
  | append_singleton secrets secret ih =>
    have hlast : store.addAll (secrets ++ [secret]) = (store.addAll secrets).add secret :=
      List.foldl_concat ..
    rw [hlast, get?_add, ih, List.filter_append]
    by_cases hat : secret.ns = ns ∧ secret.name = name
    · rw [if_pos hat, List.filter_singleton, decide_eq_true hat, cond_true,
        List.getLast?_concat, Option.some_or]
    · rw [if_neg hat, List.filter_singleton, decide_eq_false hat, cond_false, List.append_nil]

/-- The places at which a store holds a secret. -/
def places (store : SecretStore) : Finset (String × String) :=
  (store.secrets.map Secret.place).toFinset

theorem size_eq_card_places (h : store.Distinct) : store.size = store.places.card := by
  have hnodup : (store.secrets.map Secret.place).Nodup :=
    List.pairwise_map.2 (h.imp fun hne heq => hne (Prod.mk.inj heq))
  rw [places, List.toFinset_card_of_nodup hnodup, List.length_map, size]

/-- A secret that is added takes its place, and the other places stay. -/
theorem places_add (store : SecretStore) (secret : Secret) :
    (store.add secret).places = insert secret.place store.places := by
  ext p
  simp only [places, add, List.map_cons, List.toFinset_cons, Finset.mem_insert,
    List.mem_toFinset, List.mem_map, List.mem_filter]
  constructor
  · rintro (hp | ⟨other, ⟨hmem, -⟩, hp⟩)
    · exact .inl hp
    · exact .inr ⟨other, hmem, hp⟩
  · rintro (hp | ⟨other, hmem, hp⟩)
    · exact .inl hp
    · by_cases hat : other.isAt secret.ns secret.name = true
      · obtain ⟨hns, hname⟩ := isAt_iff.1 hat
        exact .inl (by rw [← hp, Secret.place, hns, hname, Secret.place])
      · exact .inr ⟨other, ⟨hmem, by simpa using hat⟩, hp⟩

theorem places_addAll (store : SecretStore) (secrets : List Secret) :
    (store.addAll secrets).places = (secrets.map Secret.place).toFinset ∪ store.places := by
  induction secrets generalizing store with
  | nil => simp [addAll]
  | cons secret secrets ih =>
    show ((store.add secret).addAll secrets).places = _
    rw [ih, places_add, List.map_cons, List.toFinset_cons, Finset.union_insert,
      Finset.insert_union]

/-- **A store has as many secrets as there are places** among those that were added. -/
theorem size_addAll (secrets : List Secret) :
    (addAll {} secrets).size = (secrets.map Secret.place).toFinset.card := by
  rw [size_eq_card_places (distinct_addAll distinct_empty secrets), places_addAll]
  exact congrArg Finset.card (Finset.union_empty _)

end SecretStore
end IssuerReadiness
