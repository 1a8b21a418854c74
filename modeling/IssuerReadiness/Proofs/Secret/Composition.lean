import IssuerReadiness.Proofs.Check.Outcome
import IssuerReadiness.Proofs.Secret.Manifest
import IssuerReadiness.Proofs.Secret.Store

/-!
# Manifests compose, and the last definition counts

Secrets are defined in arrays, in lists and one by one, and a definition may be given
twice.  Two things make this harmless.  The forms are read alike: an array that is put
together is read part by part, a list is read as the array of its items, and an object that is
no list as an array of one, the failures included.  And the store that the secrets
are put in answers with the last one of a namespace and a name, whatever came before it.

The secrets of a manifest that states no namespace are put in the default one, which the
command chooses before there is a setup, and the setup chooses on its own where it looks.  The
two choices are the same (`Check.defaultNamespace_eq`), so the setup finds what was
loaded (`Visible`).

* `Secret.Stored`: a store that was filled from a manifest.
* `Secret.Visible`: secrets that a setup finds.
* `Secret.manifests_compose`: the forms, the store and the setup.
-/

namespace IssuerReadiness

open Manifest

/-- The command puts secrets where the setup looks for them. -/
theorem Check.defaultNamespace_eq (issuer : Issuer) (settings : Settings) :
    defaultNamespace issuer settings = issuer.resourceNamespace settings.clusterNamespace := by
  unfold defaultNamespace Issuer.resourceNamespace
  cases issuer.kind <;> rfl

/-- The secrets that the command loads are those of the manifest, for the namespace of the
issuer. -/
theorem Check.exists_of_load [Json.Library] {file? : String → Option Bytes} {settings : Settings}
    {path secretsPath : String} {issuer : Issuer} {store : SecretStore}
    (h : load file? settings path (some secretsPath) = .ok (issuer, some store)) :
    ∃ b v notes secrets, file? secretsPath = some b ∧ Json.read b = .value v notes ∧
      Secret.listOfJson (issuer.resourceNamespace settings.clusterNamespace) v = .ok secrets ∧
      store = SecretStore.addAll {} secrets := by
  rcases load_spec file? settings path (some secretsPath) with
    ⟨issuer', store?, hload, hloaded⟩ | ⟨f, hload, -⟩
  · cases h.symm.trans hload
    cases hloaded with
    | @secrets _ _ _ b _ secrets _ _ hfile hsecrets =>
      rw [defaultNamespace_eq, Secret.listOfBytes, jsonOfBytes] at hsecrets
      cases hread : Json.read b with
      | value v notes =>
        rw [hread] at hsecrets
        exact ⟨b, v, notes, secrets, hfile, hread, hsecrets, rfl⟩
      | refused diagnosis =>
        rw [hread] at hsecrets
        cases hsecrets
      | thrown text =>
        rw [hread] at hsecrets
        cases hsecrets
  · cases h.symm.trans hload

namespace Secret

variable {defaultNamespace : String} {v : Json} {secrets : List Secret}

/-! ## The store of a manifest -/

/-- The store was filled with the secrets that the items of a manifest are read as.  It
has of each namespace and name the last one, and none where there is none. -/
structure Stored (defaultNamespace : String) (v : Json) (secrets : List Secret)
    (store : SecretStore) : Prop where
  items : List.Forall₂ (ReadFrom defaultNamespace) (itemsOf v) secrets
  get? : ∀ ns name, store.get? ns name =
    (secrets.filter fun secret => secret.ns = ns ∧ secret.name = name).getLast?
  size : store.size = (secrets.map fun secret => (secret.ns, secret.name)).toFinset.card

theorem stored_of_listOfJson (h : listOfJson defaultNamespace v = .ok secrets) :
    Stored defaultNamespace v secrets (.addAll {} secrets) where
  items := (mapM_eq_ok_iff.1 (mapM_itemsOf h)).imp fun _ _ => ofJson_eq_ok_iff.1
  get? ns name := (SecretStore.get?_addAll {} secrets ns name).trans Option.or_none
  size := SecretStore.size_addAll secrets

/-- Items that state no namespace are read as secrets of the default one. -/
theorem Stored.ns_eq {store : SecretStore} (h : Stored defaultNamespace v secrets store)
    (hnone : ∀ item ∈ itemsOf v, (item.field "metadata").field "namespace" = .null) :
    ∀ secret ∈ secrets, secret.ns = defaultNamespace := by
  intro secret hsecret
  obtain ⟨item, hitem, hread⟩ := exists_of_forall₂ h.items secret hsecret
  rcases hread.ns with hstated | ⟨-, hns⟩
  · cases hstated.symm.trans (hnone item hitem)
  · exact hns

/-! ## What a setup finds -/

/-- Under the name of each of the secrets one is found when a client is built: the last of
those with that name. -/
def Visible (secrets : List Secret) (request : BuildRequest) : Prop :=
  ∀ secret ∈ secrets, ∃ found,
    (secrets.filter fun other => other.name = secret.name).getLast? = some found ∧
      Connection.requireSecret request.secrets request.ns secret.name = .ok found

/-- The setup finds what was loaded for the namespace of the issuer. -/
theorem Stored.visible [Json.Library] [Certificate.Library] {issuer : Issuer}
    {settings : Settings} {store : SecretStore}
    (h : Stored (issuer.resourceNamespace settings.clusterNamespace) v secrets store)
    (hnone : ∀ item ∈ itemsOf v, (item.field "metadata").field "namespace" = .null)
    (root : Logger) :
    Visible secrets ((Check.setupOf settings root).request store issuer) := by
  intro secret hsecret
  have hfilter : (secrets.filter fun other =>
      other.ns = issuer.resourceNamespace settings.clusterNamespace ∧ other.name = secret.name) =
        secrets.filter fun other => other.name = secret.name :=
    List.filter_congr fun other hother =>
      decide_eq_decide.2 (and_iff_right (h.ns_eq hnone other hother))
  have hmem : secret ∈ secrets.filter fun other => other.name = secret.name :=
    List.mem_filter.2 ⟨hsecret, decide_eq_true rfl⟩
  obtain ⟨found, hfound⟩ : ∃ found,
      (secrets.filter fun other => other.name = secret.name).getLast? = some found :=
    ⟨_, List.getLast?_eq_some_getLast (List.ne_nil_of_mem hmem)⟩
  have hget : store.get? (issuer.resourceNamespace settings.clusterNamespace) secret.name =
      some found := by
    rw [h.get?, hfilter, hfound]
  refine ⟨found, hfound, ?_⟩
  show Connection.requireSecret store (issuer.resourceNamespace settings.clusterNamespace)
    secret.name = .ok found
  rw [Connection.requireSecret, hget]

/-! ## The result -/

/-- **Manifests compose.**  Arrays of secrets that are joined are read one after the other, and
of two failures the one of the first array counts.  A list is read as the array of its items,
and an object of any other kind as the array of itself.  A store that was filled
from a manifest has of each namespace and name the last secret, and its size is the number of
different places.  The command reads the manifest for the namespace in which the setup
looks secrets up, so if no item states a namespace, the setup finds all of them. -/
theorem manifests_compose [Json.Library] [Certificate.Library] (defaultNamespace : String) :
    (∀ xs ys, listOfJson defaultNamespace (.arr (xs ++ ys)) = do
      return (← listOfJson defaultNamespace (.arr xs)) ++
        (← listOfJson defaultNamespace (.arr ys))) ∧
    (∀ v xs, IsList v → v.field "items" = .arr xs →
      listOfJson defaultNamespace v = listOfJson defaultNamespace (.arr xs)) ∧
    (∀ v, IsSingle v → listOfJson defaultNamespace v = listOfJson defaultNamespace (.arr [v])) ∧
    (∀ v secrets, listOfJson defaultNamespace v = .ok secrets →
      Stored defaultNamespace v secrets (.addAll {} secrets)) ∧
    (∀ issuer settings, Check.defaultNamespace issuer settings =
      issuer.resourceNamespace settings.clusterNamespace) ∧
    ∀ file? settings path secretsPath issuer store,
      Check.load file? settings path (some secretsPath) = .ok (issuer, some store) →
      ∃ b v notes secrets, file? secretsPath = some b ∧ Json.read b = .value v notes ∧
        Stored (issuer.resourceNamespace settings.clusterNamespace) v secrets store ∧
        ((∀ item ∈ itemsOf v, (item.field "metadata").field "namespace" = .null) →
          ∀ root, Visible secrets ((Check.setupOf settings root).request store issuer)) := by
  refine ⟨fun xs ys => List.mapM_append, fun _ _ hlist hitems => listOfJson_of_list hlist hitems,
    fun _ => listOfJson_of_single, fun _ _ => stored_of_listOfJson, Check.defaultNamespace_eq, ?_⟩
  intro file? settings path secretsPath issuer store hload
  obtain ⟨b, v, notes, secrets, hfile, hread, hsecrets, rfl⟩ := Check.exists_of_load hload
  have hstored := stored_of_listOfJson hsecrets
  exact ⟨b, v, notes, secrets, hfile, hread, hstored, hstored.visible⟩

/-- A list that defines a secret twice, the second time in the default namespace by its name,
and one secret more. -/
def repeatedManifest : Json :=
  let definition (metadata : List (String × Json)) (token : String) : Json :=
    Json.ofMembers [("metadata", Json.ofMembers metadata),
      ("stringData", Json.ofMembers [("token", .str token)])]
  Json.ofMembers [("kind", .str "List"), ("items", .arr
    [definition [("name", .str "a")] "first",
      definition [("name", .str "b")] "other",
      definition [("name", .str "a"), ("namespace", .str "team")] "second"])]

example : ((listOfJson "team" repeatedManifest).toOption.map fun secrets =>
    let store := SecretStore.addAll {} secrets
    (store.size, (store.get? "team" "a").bind (·.value? "token"), store.get? "a" "team")) =
      some (2, some (Bytes.ofString "second"), none) := by
  decide +kernel

end Secret
end IssuerReadiness
