import IssuerReadiness.Proofs.Manifest.Faults

/-!
# What a manifest of secrets is read as

Secrets come as one object, as an object whose kind says that it is a list, or as a bare
array.  Whichever it is, the manifest has items, and they are read one after the other and
each for itself: what the manifest is read as is what its items are read as
(`mapM_itemsOf`).

An item is read as a secret under conditions that can be said member by member
(`ReadFrom`).  The name and the namespace of the secret are among them, whatever else the item
has, and they leave nothing out: an item that meets them is read (`ofJson_eq_ok_iff`).

* `Secret.itemsOf`: the items of a manifest of any form.
* `Secret.listOfJson_of_list`, `Secret.listOfJson_of_single`: the forms compared with arrays.
* `Secret.ReadFrom`: what a secret has from its item.
-/

namespace IssuerReadiness

open Manifest

namespace Secret

variable {defaultNamespace : String} {v : Json} {secret : Secret}

/-! ## Forms -/

/-- The object says that it is a list of secrets. -/
def IsList (v : Json) : Prop :=
  (v.field "kind").text? = some "List" ∨ (v.field "kind").text? = some "SecretList"

instance (v : Json) : Decidable (IsList v) :=
  inferInstanceAs (Decidable (_ ∨ _))

/-- The object says nothing of its kind, or that it is something else than a list of
secrets. -/
structure IsSingle (v : Json) : Prop where
  isObject : v.isObject = true
  kind : v.field "kind" = .null ∨ ∃ kind, v.field "kind" = .str kind
  notList : ¬ IsList v

/-- The items of a manifest of any form. -/
def itemsOf (v : Json) : List Json :=
  if IsList v then (v.field "items").items else if v.isArray then v.items else [v]

/-- A kind is read from a text or from nothing. -/
theorem kindOfJson_eq_ok_iff {place kind : String} :
    kindOfJson v place = .ok kind ↔
      v.field "kind" = .str kind ∨ v.field "kind" = .null ∧ kind = "" := by
  unfold kindOfJson refuse
  cases v.field "kind" <;> grind

theorem itemsOfJson_eq_ok_iff {vs : List Json} :
    itemsOfJson v = .ok vs ↔ v.field "items" = .arr vs ∨ v.field "items" = .null ∧ vs = [] := by
  unfold itemsOfJson refuse
  cases v.field "items" <;> grind

theorem isList_of_kind {kind : String} (h : v.field "kind" = .str kind) :
    IsList v ↔ kind = "List" ∨ kind = "SecretList" := by
  rw [IsList, h, Json.text?_str, Option.some.injEq, Option.some.injEq]

/-- An array is read item by item. -/
theorem listOfJson_arr (vs : List Json) :
    listOfJson defaultNamespace (.arr vs) = vs.mapM (ofJson defaultNamespace) := rfl

/-- An object is read as a list or as one secret, as its kind says. -/
theorem listOfJson_of_isObject (hv : v.isObject = true) :
    listOfJson defaultNamespace v = (do
      let kind ← kindOfJson v "manifest"
      if kind = "List" ∨ kind = "SecretList" then
        (itemsOfJson v >>= fun vs => vs.mapM (ofJson defaultNamespace))
      else
        return [← ofJson defaultNamespace v]) := by
  cases v with
  | obj ms => rfl
  | _ => cases hv

theorem IsList.exists_kind (h : IsList v) :
    ∃ kind, v.field "kind" = .str kind ∧ (kind = "List" ∨ kind = "SecretList") := by
  cases hkind : v.field "kind" with
  | str kind => exact ⟨kind, rfl, (isList_of_kind hkind).1 h⟩
  | _ => simp [IsList, hkind, Json.text?] at h

/-- Of a list the items are read, if there are any. -/
theorem listOfJson_of_isList (h : IsList v) :
    listOfJson defaultNamespace v =
      itemsOfJson v >>= fun vs => vs.mapM (ofJson defaultNamespace) := by
  obtain ⟨kind, hkind, hlist⟩ := h.exists_kind
  have hne : v.field "kind" ≠ .null := by
    rw [hkind]
    nofun
  have hobject : v.isObject = true := Json.isObject_of_field_ne_null hne
  rw [listOfJson_of_isObject hobject, kindOfJson_eq_ok_iff.2 (.inl hkind), ok_bind, if_pos hlist]

/-- A list is read as the array of its items. -/
theorem listOfJson_of_list {vs : List Json} (h : IsList v) (hitems : v.field "items" = .arr vs) :
    listOfJson defaultNamespace v = listOfJson defaultNamespace (.arr vs) := by
  rw [listOfJson_of_isList h, itemsOfJson_eq_ok_iff.2 (.inl hitems), ok_bind, listOfJson_arr]

/-- An object that is no list is read as the array of itself. -/
theorem listOfJson_of_single (h : IsSingle v) :
    listOfJson defaultNamespace v = listOfJson defaultNamespace (.arr [v]) := by
  obtain ⟨kind, hkind, hother⟩ : ∃ kind, kindOfJson v "manifest" = .ok kind ∧
      ¬ (kind = "List" ∨ kind = "SecretList") := by
    rcases h.kind with hnull | ⟨kind, hkind⟩
    · exact ⟨"", kindOfJson_eq_ok_iff.2 (.inr ⟨hnull, rfl⟩), by decide⟩
    · exact ⟨kind, kindOfJson_eq_ok_iff.2 (.inl hkind),
        fun hlist => h.notList ((isList_of_kind hkind).2 hlist)⟩
  rw [listOfJson_of_isObject h.isObject, hkind, ok_bind, if_neg hother, listOfJson_arr,
    List.mapM_cons, List.mapM_nil]
  rfl

/-- The kind of an object that was read is a text, or there is none. -/
theorem kind_of_listOfJson {secrets : List Secret} (hv : v.isObject = true)
    (h : listOfJson defaultNamespace v = .ok secrets) :
    v.field "kind" = .null ∨ ∃ kind, v.field "kind" = .str kind := by
  rw [listOfJson_of_isObject hv] at h
  obtain ⟨kind, hkind, -⟩ := bind_eq_ok_iff.1 h
  rcases kindOfJson_eq_ok_iff.1 hkind with hkind | ⟨hnull, -⟩
  · exact .inr ⟨kind, hkind⟩
  · exact .inl hnull

/-- **A manifest is read by its items**, whatever its form. -/
theorem mapM_itemsOf {secrets : List Secret} (h : listOfJson defaultNamespace v = .ok secrets) :
    (itemsOf v).mapM (ofJson defaultNamespace) = .ok secrets := by
  by_cases hlist : IsList v
  · rw [listOfJson_of_isList hlist] at h
    obtain ⟨vs, hvs, h⟩ := bind_eq_ok_iff.1 h
    rw [itemsOf, if_pos hlist]
    rcases itemsOfJson_eq_ok_iff.1 hvs with hitems | ⟨hnull, rfl⟩
    · rwa [hitems]
    · rwa [hnull]
  · rw [itemsOf, if_neg hlist]
    cases v with
    | arr vs => exact h
    | obj ms => rwa [listOfJson_of_single ⟨rfl, kind_of_listOfJson rfl h, hlist⟩] at h
    | _ => cases h

/-! ## Items -/

theorem nameOfJson_eq_ok_iff {metadata : Json} {name : String} :
    nameOfJson metadata = .ok name ↔ metadata.field "name" = .str name ∧ name ≠ "" := by
  unfold nameOfJson refuse
  cases metadata.field "name" with
  | str s => by_cases hs : s = "" <;> grind
  | _ => simp

theorem namespaceOfJson_eq_ok_iff {metadata : Json} {name ns : String} :
    namespaceOfJson metadata name defaultNamespace = .ok ns ↔
      metadata.field "namespace" = .str ns ∨
        metadata.field "namespace" = .null ∧ ns = defaultNamespace := by
  unfold namespaceOfJson refuse
  cases metadata.field "namespace" <;> grind

/-- What a secret has from the item that it is read from. -/
structure ReadFrom (defaultNamespace : String) (v : Json) (secret : Secret) : Prop where
  isObject : v.isObject = true
  kind : v.field "kind" = .null ∨ v.field "kind" = .str "" ∨ v.field "kind" = .str "Secret"
  name : (v.field "metadata").field "name" = .str secret.name
  name_ne : secret.name ≠ ""
  ns : (v.field "metadata").field "namespace" = .str secret.ns ∨
    (v.field "metadata").field "namespace" = .null ∧ secret.ns = defaultNamespace
  encoded : v.field "data" = .null ∨ (v.field "data").isObject = true
  plain : v.field "stringData" = .null ∨ (v.field "stringData").isObject = true
  values : ∃ values,
    addEncoded ("secret " ++ secret.name) [] (v.field "data").members = .ok values ∧
      addPlain ("secret " ++ secret.name) values (v.field "stringData").members = .ok secret.data

/-- **An item is read** exactly if it is an object with the members of a secret. -/
theorem ofJson_eq_ok_iff :
    ofJson defaultNamespace v = .ok secret ↔ ReadFrom defaultNamespace v secret := by
  constructor
  · intro h
    unfold ofJson at h
    dsimp only at h
    split at h
    · next hobject =>
      obtain ⟨kind, hkind, h⟩ := bind_eq_ok_iff.1 h
      split at h
      · cases h
      · next hsecret =>
        obtain ⟨name, hname, h⟩ := bind_eq_ok_iff.1 h
        obtain ⟨ns, hns, h⟩ := bind_eq_ok_iff.1 h
        obtain ⟨encoded, hencoded, h⟩ := bind_eq_ok_iff.1 h
        obtain ⟨values, hvalues, h⟩ := bind_eq_ok_iff.1 h
        obtain ⟨plain, hplain, h⟩ := bind_eq_ok_iff.1 h
        obtain ⟨data, hdata, h⟩ := bind_eq_ok_iff.1 h
        cases h
        obtain ⟨hname, hne⟩ := nameOfJson_eq_ok_iff.1 hname
        obtain ⟨rfl, hencoded⟩ := optionalObject_eq_ok_iff.1 hencoded
        obtain ⟨rfl, hplain⟩ := optionalObject_eq_ok_iff.1 hplain
        refine ⟨hobject, ?_, hname, hne, namespaceOfJson_eq_ok_iff.1 hns, hencoded, hplain,
          ⟨values, hvalues, hdata⟩⟩
        rcases kindOfJson_eq_ok_iff.1 hkind with hkind | ⟨hnull, -⟩
        · grind
        · exact .inl hnull
    · cases h
  · rintro ⟨hobject, hkind, hname, hne, hns, hencoded, hplain, values, hvalues, hdata⟩
    obtain ⟨kind, hkind, hsecret⟩ : ∃ kind, kindOfJson v "secret" = .ok kind ∧
        ¬ (kind ≠ "" ∧ kind ≠ "Secret") := by
      rcases hkind with hnull | hempty | hkind
      · exact ⟨"", kindOfJson_eq_ok_iff.2 (.inr ⟨hnull, rfl⟩), by simp⟩
      · exact ⟨"", kindOfJson_eq_ok_iff.2 (.inl hempty), by simp⟩
      · exact ⟨"Secret", kindOfJson_eq_ok_iff.2 (.inl hkind), by simp⟩
    unfold ofJson
    dsimp only
    rw [if_pos hobject, hkind, ok_bind, if_neg hsecret, nameOfJson_eq_ok_iff.2 ⟨hname, hne⟩,
      ok_bind, namespaceOfJson_eq_ok_iff.2 hns, ok_bind,
      optionalObject_eq_ok_iff.2 ⟨rfl, hencoded⟩, ok_bind, hvalues, ok_bind,
      optionalObject_eq_ok_iff.2 ⟨rfl, hplain⟩, ok_bind, hdata]
    rfl

end Secret
end IssuerReadiness
