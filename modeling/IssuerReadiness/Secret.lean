import IssuerReadiness.Bytes
import IssuerReadiness.Keyed

/-!
# Secrets

A secret is a named set of values in a namespace.  A store holds at most one secret
of each namespace and name: one that is added replaces the one that is there.  The
two parts of the key are compared apart from each other, so a slash in either of
them joins nothing.

* `Secret.value?` --- the value under a key.
* `SecretStore.add`, `SecretStore.get?`, `SecretStore.size`.
* `get?_add` --- the view of a store after one addition.
-/

namespace IssuerReadiness

/-- A named set of values in a namespace. -/
structure Secret where
  name : String
  ns : String
  data : Keyed Bytes := []
  deriving DecidableEq, Repr

namespace Secret

/-- The value under a key. -/
def value? (secret : Secret) (key : String) : Option Bytes :=
  Keyed.find? key secret.data

/-- Whether a secret has a namespace and a name. -/
def isAt (secret : Secret) (ns name : String) : Bool :=
  secret.ns == ns && secret.name == name

end Secret

/-- Secrets by namespace and name. -/
structure SecretStore where
  secrets : List Secret := []
  deriving DecidableEq, Repr

namespace SecretStore

/-- The secret with a namespace and a name. -/
def get? (store : SecretStore) (ns name : String) : Option Secret :=
  store.secrets.find? (·.isAt ns name)

/-- Adds a secret, in place of the one with its namespace and name. -/
def add (store : SecretStore) (secret : Secret) : SecretStore :=
  ⟨secret :: store.secrets.filter (! ·.isAt secret.ns secret.name)⟩

/-- Adds secrets one after the other. -/
def addAll (store : SecretStore) (secrets : List Secret) : SecretStore :=
  secrets.foldl add store

/-- How many secrets there are. -/
def size (store : SecretStore) : Nat :=
  store.secrets.length

theorem get?_add (store : SecretStore) (secret : Secret) (ns name : String) :
    (store.add secret).get? ns name =
      if secret.ns = ns ∧ secret.name = name then some secret else store.get? ns name := by
  unfold get? add
  rw [List.find?_cons]
  by_cases h : secret.ns = ns ∧ secret.name = name
  · simp [Secret.isAt, h]
  · have hne : secret.isAt ns name = false := by
      simpa [Secret.isAt, and_imp] using h
    simp only [hne, h, if_false, List.find?_filter]
    congr 1
    funext s
    by_cases hs : s.isAt ns name = true
    · have : s.isAt secret.ns secret.name = false := by
        simp only [Secret.isAt, Bool.and_eq_true, beq_iff_eq] at hs
        simp only [Secret.isAt, hs.1, hs.2, Bool.and_eq_false_iff, beq_eq_false_iff_ne]
        by_cases h1 : ns = secret.ns
        · exact Or.inr fun h2 => h ⟨h1.symm, h2.symm⟩
        · exact Or.inl h1
      simp [hs, this]
    · simp [hs]

end SecretStore

end IssuerReadiness
