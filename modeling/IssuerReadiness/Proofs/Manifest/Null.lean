import IssuerReadiness.Proofs.Issuer.RoundTrip
import IssuerReadiness.Proofs.Secret.Manifest

/-!
# Members that are null

A member of a manifest that may be left out may also be null, and both mean the same.
Here this is proved for the optional members of all manifests but one: the reference to a
trust bundle, `spec.venafi.tpp.caBundleSecretRef`.  Its reader asks whether the member is
there and not what it is, so that a manifest that is read without it is refused with it.

## Places

Optional members are named by their places, so that a set of them is a list of places and
`addNulls` adds them all.  The places of a manifest follow its readers: each reader has its
own optional places, and those of its parts, one step further down.

## The argument

A reader ignores a place (`Ignores`) if `null` there makes no difference to it.  What is
read of an object is read by `Json.field`, which does not tell a member that is missing
from one that is null (`field_addNull_last`), so a reader ignores its own optional places.
It ignores the places of a part as soon as the reader of the part does
(`Ignores.ofMember`, `Ignores.mapM`), and a list of places if each of them
(`Ignores.addNulls`).

* `Json.addNull`, `Json.addNulls`: members that are null, added where there are none.
* `Issuer.Optional`, `Secret.ListOptional`: the places of optional members.
* `Manifest.ignores_optional`: null means absent.
* `Manifest.refused_bundleRef`: where it does not.
-/

namespace IssuerReadiness

open Manifest

/-! ## Places -/

namespace Json

/-- A step from a value to one of its parts. -/
inductive Step where
  | member (key : String)
  | item (i : Nat)
  deriving DecidableEq, Repr

/-- Where a part of a value is: the steps that lead to it. -/
abbrev Place := List Step

/-- The value with `null` as the member at a place.  The object that gets the member has to
be there, and a member that is there already stays. -/
def addNull : Place → Json → Json
  | .member key :: place, v =>
      if v.isObject && (v.hasField key || place.isEmpty) then
        v.setField key (addNull place (v.field key))
      else v
  | .item i :: place, .arr vs => .arr (vs.modify i (addNull place))
  | _, v => v

/-- The value with `null` at each of some places. -/
def addNulls (places : List Place) (v : Json) : Json :=
  places.foldl (fun v place => addNull place v) v

@[simp] theorem addNull_nil (v : Json) : addNull [] v = v := by
  cases v <;> rfl

theorem addNull_member_of_not_isObject {v : Json} (h : v.isObject = false) (key : String)
    (place : Place) : addNull (.member key :: place) v = v := by
  rw [addNull, h]
  rfl

@[simp] theorem addNull_null (place : Place) : addNull place .null = .null := by
  match place with
  | [] => rfl
  | .member key :: place => exact addNull_member_of_not_isObject rfl key place
  | .item i :: place => rfl

@[simp] theorem isObject_addNull (place : Place) (v : Json) :
    (addNull place v).isObject = v.isObject := by
  match place with
  | [] => rw [addNull_nil]
  | .member key :: place =>
    rw [addNull]
    cases hobject : v.isObject with
    | false => exact hobject
    | true =>
      split
      · rfl
      · exact hobject
  | .item i :: place => cases v <;> rfl

@[simp] theorem isNull_addNull (place : Place) (v : Json) :
    (addNull place v).isNull = v.isNull := by
  match place with
  | [] => rw [addNull_nil]
  | .member key :: place =>
    cases v with
    | obj ms =>
      rw [addNull]
      split <;> rfl
    | _ => rfl
  | .item i :: place => cases v <;> rfl

/-- Under its own key a member is what was added to it, and other members are as they
were. -/
theorem field_addNull (key : String) (place : Place) (v : Json) (q : String) :
    (addNull (.member key :: place) v).field q =
      if key = q then addNull place (v.field key) else v.field q := by
  rw [addNull]
  by_cases hthere : (v.isObject && (v.hasField key || place.isEmpty)) = true
  · rw [if_pos hthere, field_setField]
  · rw [if_neg hthere]
    -- there is no such member, so that it reads as null, and null stays null
    have hnull : v.field key = .null := by
      cases v with
      | obj ms =>
        have hmissing : Json.hasField (.obj ms) key = false := by
          simp only [isObject, Bool.true_and, Bool.or_eq_true, not_or, Bool.not_eq_true] at hthere
          exact hthere.1
        unfold hasField at hmissing
        unfold field
        rw [Option.isSome_eq_false_iff, Option.isNone_iff_eq_none] at hmissing
        rw [hmissing]
        rfl
      | _ => rfl
    rw [hnull, addNull_null]
    split
    · next hkey => rw [← hkey, hnull]
    · rfl

/-- A member that is missing reads as one that is null. -/
@[simp] theorem field_addNull_last (key : String) (v : Json) (q : String) :
    (addNull [.member key] v).field q = v.field q := by
  rw [field_addNull, addNull_nil]
  split
  · next hkey => rw [hkey]
  · rfl

theorem field_addNull_self (key : String) (place : Place) (v : Json) :
    (addNull (.member key :: place) v).field key = addNull place (v.field key) := by
  rw [field_addNull, if_pos rfl]

theorem field_addNull_of_ne {key q : String} (h : key ≠ q) (place : Place) (v : Json) :
    (addNull (.member key :: place) v).field q = v.field q := by
  rw [field_addNull, if_neg h]

theorem hasField_addNull_of_ne {key q : String} (h : key ≠ q) (place : Place) (v : Json) :
    (addNull (.member key :: place) v).hasField q = v.hasField q := by
  rw [addNull]
  split
  · rw [hasField_setField, beq_eq_false_iff_ne.2 h, Bool.false_or]
  · rfl

/-- Further down nothing is added to the object itself. -/
theorem hasField_addNull_cons (key : String) (step : Step) (place : Place) (v : Json)
    (q : String) : (addNull (.member key :: step :: place) v).hasField q = v.hasField q := by
  rw [addNull]
  split
  · next hthere =>
    have hfield : v.hasField key = true := by
      simp only [List.isEmpty_cons, Bool.or_false, Bool.and_eq_true] at hthere
      exact hthere.2
    rw [hasField_setField]
    by_cases hkey : key = q
    · rw [← hkey, hfield, Bool.or_true]
    · rw [beq_eq_false_iff_ne.2 hkey, Bool.false_or]
  · rfl

end Json

open Json (Place Step addNull addNulls)

/-! ## Readers that ignore a place -/

namespace Manifest

variable {α : Type} {read : Json → Except Failure α} {place : Place}

/-- It makes no difference to a reader whether there is `null` at a place or nothing. -/
def Ignores (read : Json → Except Failure α) (place : Place) : Prop :=
  ∀ v, read (addNull place v) = read v

theorem Ignores.nil (read : Json → Except Failure α) : Ignores read [] :=
  fun v => by rw [Json.addNull_nil]

/-- A reader that ignores each of some places ignores them all. -/
theorem Ignores.addNulls {places : List Place} (h : ∀ p ∈ places, Ignores read p) (v : Json) :
    read (addNulls places v) = read v := by
  induction places generalizing v with
  | nil => rfl
  | cons p places ih =>
    have hrest := ih fun q hq => h q (List.mem_cons_of_mem p hq)
    calc read (Json.addNulls (p :: places) v)
        = read (Json.addNulls places (addNull p v)) := rfl
      _ = read (addNull p v) := hrest (addNull p v)
      _ = read v := h p List.mem_cons_self v

theorem optionalObject_eq (obj : Json) (key label : String) :
    optionalObject obj key label =
      if (obj.field key).isNull || (obj.field key).isObject then .ok (obj.field key)
      else refuse (label ++ "." ++ key ++ " must be an object") := by
  unfold optionalObject
  cases obj.field key <;> rfl

/-- A part that is an object is read with what was added to it. -/
theorem optionalObject_addNull (v : Json) (key label : String) (place : Place) :
    optionalObject (addNull (.member key :: place) v) key label =
      (optionalObject v key label).map (addNull place) := by
  rw [optionalObject_eq, optionalObject_eq, Json.field_addNull, if_pos rfl, Json.isNull_addNull,
    Json.isObject_addNull]
  split <;> rfl

/-- What is read of a part ignores a place if it does so further down. -/
theorem Ignores.ofMember (h : Ignores read place) (key label : String) :
    Ignores (fun v => optionalObject v key label >>= read) (.member key :: place) := by
  intro v
  dsimp only
  rw [optionalObject_addNull]
  cases optionalObject v key label with
  | error f => rfl
  | ok part => exact h part

theorem Ignores.optionalPart (h : Ignores read place) (key label : String) :
    Ignores (fun v => optionalPart read v key label) (.member key :: place) := by
  refine Ignores.ofMember (fun part => ?_) key label
  rw [Json.isObject_addNull, h part]

theorem optionalPart_addNull_of_ne {key q : String} (h : key ≠ q) (place : Place) (v : Json)
    (label : String) :
    optionalPart read (addNull (.member key :: place) v) q label = optionalPart read v q label := by
  unfold Manifest.optionalPart optionalObject
  rw [Json.field_addNull_of_ne h]

/-- A reader of a list ignores a place in an item if the reader of the items does. -/
theorem Ignores.mapM (h : Ignores read place) (i : Nat) (vs : List Json) :
    (vs.modify i (addNull place)).mapM read = vs.mapM read := by
  induction vs generalizing i with
  | nil => rw [List.modify_nil]
  | cons v vs ih =>
    cases i with
    | zero => rw [List.modify_zero_cons, List.mapM_cons, List.mapM_cons, h v]
    | succ i => rw [List.modify_succ_cons, List.mapM_cons, List.mapM_cons, ih i]

end Manifest

/-! ## Issuers -/

/-- The optional members of a reference to a value of a secret. -/
inductive SecretRef.Optional : Place → Prop where
  | key : Optional [.member "key"]

/-- The optional members of the description of a Trust Protection Platform that may be
null; its reference to a trust bundle must not be. -/
inductive TppSpec.Optional : Place → Prop where
  | caBundle : Optional [.member "caBundle"]
  | ofBundleRef {place : Place} (h : SecretRef.Optional place) :
      Optional (.member "caBundleSecretRef" :: place)

/-- The optional members of the description of the cloud service. -/
inductive CloudSpec.Optional : Place → Prop where
  | url : Optional [.member "url"]
  | ofToken {place : Place} (h : SecretRef.Optional place) :
      Optional (.member "apiTokenSecretRef" :: place)

/-- The optional members of the description of a Venafi backend. -/
inductive VenafiSpec.Optional : Place → Prop where
  | tpp : Optional [.member "tpp"]
  | cloud : Optional [.member "cloud"]
  | ofTpp {place : Place} (h : TppSpec.Optional place) : Optional (.member "tpp" :: place)
  | ofCloud {place : Place} (h : CloudSpec.Optional place) : Optional (.member "cloud" :: place)

/-- The optional members of a condition. -/
inductive Condition.Optional : Place → Prop where
  | status : Optional [.member "status"]
  | reason : Optional [.member "reason"]
  | message : Optional [.member "message"]
  | observedGeneration : Optional [.member "observedGeneration"]
  | lastTransitionTime : Optional [.member "lastTransitionTime"]

/-- The optional members of the manifest of an issuer. -/
inductive Issuer.Optional : Place → Prop where
  | ns : Optional [.member "metadata", .member "namespace"]
  | generation : Optional [.member "metadata", .member "generation"]
  | spec : Optional [.member "spec"]
  | venafi : Optional [.member "spec", .member "venafi"]
  | ofVenafi {place : Place} (h : VenafiSpec.Optional place) :
      Optional (.member "spec" :: .member "venafi" :: place)
  | status : Optional [.member "status"]
  | conditions : Optional [.member "status", .member "conditions"]
  | ofCondition (i : Nat) {place : Place} (h : Condition.Optional place) :
      Optional (.member "status" :: .member "conditions" :: .item i :: place)

section Issuers

variable {place : Place}

/-! Every reader ignores its own optional members, since they are read by `Json.field`, and
those of its parts. -/

theorem SecretRef.ignores_ofJson (h : SecretRef.Optional place) (label : String) :
    Ignores (SecretRef.ofJson · label) place := by
  intro v
  cases h with
  | key =>
    simp only [SecretRef.ofJson, requiredText, optionalText, Json.isObject_addNull,
      Json.field_addNull_last]

/-- Whether a reference is there is not changed by what is added to it. -/
theorem SecretRef.Optional.hasField_addNull (h : SecretRef.Optional place) (key : String)
    (v : Json) (q : String) : (addNull (.member key :: place) v).hasField q = v.hasField q := by
  cases h with
  | key => exact Json.hasField_addNull_cons key _ _ v q

theorem TppSpec.ignores_bundleRefOfJson (h : SecretRef.Optional place) (label : String) :
    Ignores (bundleRefOfJson · label) (.member "caBundleSecretRef" :: place) := by
  intro v
  have href := SecretRef.ignores_ofJson h (label ++ ".caBundleSecretRef")
    (v.field "caBundleSecretRef")
  simp only [bundleRefOfJson, h.hasField_addNull, Json.field_addNull_self, href]

theorem TppSpec.ignores_ofJson (h : TppSpec.Optional place) : Ignores TppSpec.ofJson place := by
  intro v
  cases h with
  | caBundle =>
    have hthere : (addNull [.member "caBundle"] v).hasField "caBundleSecretRef" =
        v.hasField "caBundleSecretRef" := Json.hasField_addNull_of_ne (by decide) [] v
    simp only [ofJson, bundleRefOfJson, requiredText, optionalText, hthere,
      Json.field_addNull_last]
  | ofBundleRef h =>
    have href := ignores_bundleRefOfJson h "spec.venafi.tpp" v
    simp (disch := decide) only [ofJson, href, requiredText, optionalText,
      Json.field_addNull_of_ne]

theorem CloudSpec.ignores_ofJson (h : CloudSpec.Optional place) :
    Ignores CloudSpec.ofJson place := by
  intro v
  cases h with
  | url =>
    have hthere : (addNull [.member "url"] v).hasField "apiTokenSecretRef" =
        v.hasField "apiTokenSecretRef" := Json.hasField_addNull_of_ne (by decide) [] v
    simp only [ofJson, optionalText, hthere, Json.field_addNull_last]
  | ofToken h =>
    have htoken := SecretRef.ignores_ofJson h ("spec.venafi.cloud" ++ ".apiTokenSecretRef")
      (v.field "apiTokenSecretRef")
    simp (disch := decide) only [ofJson, optionalText, h.hasField_addNull, htoken,
      Json.field_addNull_self, Json.field_addNull_of_ne]

theorem VenafiSpec.ignores_ofJson (h : VenafiSpec.Optional place) :
    Ignores VenafiSpec.ofJson place := by
  intro v
  rw [ofJson_eq, ofJson_eq]
  cases h with
  | tpp | cloud =>
    simp only [optionalPart, optionalObject, requiredText, Json.field_addNull_last]
  | ofTpp h =>
    have htpp := (TppSpec.ignores_ofJson h).optionalPart "tpp" "spec.venafi" v
    simp (disch := decide) only [htpp, requiredText, Json.field_addNull_of_ne,
      optionalPart_addNull_of_ne]
  | ofCloud h =>
    have hcloud := (CloudSpec.ignores_ofJson h).optionalPart "cloud" "spec.venafi" v
    simp (disch := decide) only [hcloud, requiredText, Json.field_addNull_of_ne,
      optionalPart_addNull_of_ne]

theorem Condition.ignores_ofJson (h : Condition.Optional place) :
    Ignores Condition.ofJson place := by
  intro v
  cases h <;>
    simp only [ofJson, requiredText, optionalText, optionalInt, Json.isObject_addNull,
      Json.field_addNull_last]

theorem Condition.ignores_listOfJson (h : Condition.Optional place) (i : Nat) :
    Ignores Condition.listOfJson (.item i :: place) := by
  intro v
  cases v with
  | arr vs => exact (Condition.ignores_ofJson h).mapM i vs
  | _ => rfl

namespace Issuer

theorem ignores_venafiOfJson (h : VenafiSpec.Optional place) :
    Ignores venafiOfJson (.member "spec" :: .member "venafi" :: place) :=
  ((VenafiSpec.ignores_ofJson h).optionalPart "venafi" "spec").ofMember "spec" "manifest"

theorem ignores_conditionsOfJson (h : Ignores Condition.listOfJson place) :
    Ignores conditionsOfJson (.member "status" :: .member "conditions" :: place) := by
  refine Ignores.ofMember (fun status => ?_) "status" "manifest"
  rw [Json.field_addNull_self, h]

/-- Of a manifest that is an object an issuer is read in four parts. -/
theorem ofJson_congr {v v' : Json} (hobject : v'.isObject = v.isObject)
    (hkind : v'.field "kind" = v.field "kind")
    (hmetadata : (v'.field "metadata").isObject = (v.field "metadata").isObject ∧
      ∀ key, (v'.field "metadata").field key = (v.field "metadata").field key)
    (hvenafi : venafiOfJson v' = venafiOfJson v)
    (hconditions : conditionsOfJson v' = conditionsOfJson v) : ofJson v' = ofJson v := by
  simp only [ofJson, kindOfJson, requiredText, optionalText, optionalInt, hobject, hkind,
    hmetadata.1, hmetadata.2, hvenafi, hconditions]

theorem venafiOfJson_congr {v v' : Json} (h : v'.field "spec" = v.field "spec") :
    venafiOfJson v' = venafiOfJson v := by
  simp only [venafiOfJson, optionalObject, h]

theorem conditionsOfJson_congr {v v' : Json} (h : v'.field "status" = v.field "status") :
    conditionsOfJson v' = conditionsOfJson v := by
  simp only [conditionsOfJson, optionalObject, h]

/-- A reader of issuers ignores what is added to the metadata. -/
theorem ignores_ofMetadata (key : String) :
    Ignores ofJson [.member "metadata", .member key] := by
  intro v
  have hsame : ∀ q, "metadata" ≠ q →
      (addNull [.member "metadata", .member key] v).field q = v.field q :=
    fun q hq => Json.field_addNull_of_ne hq _ v
  refine ofJson_congr (Json.isObject_addNull _ v) (hsame _ (by decide)) ?_
    (venafiOfJson_congr (hsame _ (by decide))) (conditionsOfJson_congr (hsame _ (by decide)))
  rw [Json.field_addNull_self]
  exact ⟨Json.isObject_addNull _ _, Json.field_addNull_last key _⟩

/-- It ignores what the reader of the backend ignores. -/
theorem ignores_ofSpec (h : Ignores venafiOfJson (.member "spec" :: place)) :
    Ignores ofJson (.member "spec" :: place) := by
  intro v
  have hsame : ∀ q, "spec" ≠ q → (addNull (.member "spec" :: place) v).field q = v.field q :=
    fun q hq => Json.field_addNull_of_ne hq place v
  refine ofJson_congr (Json.isObject_addNull _ v) (hsame _ (by decide)) ?_ (h v)
    (conditionsOfJson_congr (hsame _ (by decide)))
  rw [hsame _ (by decide)]
  exact ⟨rfl, fun _ => rfl⟩

/-- It ignores what the reader of the conditions ignores. -/
theorem ignores_ofStatus (h : Ignores conditionsOfJson (.member "status" :: place)) :
    Ignores ofJson (.member "status" :: place) := by
  intro v
  have hsame : ∀ q, "status" ≠ q → (addNull (.member "status" :: place) v).field q = v.field q :=
    fun q hq => Json.field_addNull_of_ne hq place v
  refine ofJson_congr (Json.isObject_addNull _ v) (hsame _ (by decide)) ?_
    (venafiOfJson_congr (hsame _ (by decide))) (h v)
  rw [hsame _ (by decide)]
  exact ⟨rfl, fun _ => rfl⟩

theorem ignores_ofJson (h : Issuer.Optional place) : Ignores ofJson place := by
  cases h with
  | ns => exact ignores_ofMetadata "namespace"
  | generation => exact ignores_ofMetadata "generation"
  | spec =>
    exact ignores_ofSpec fun v => venafiOfJson_congr (Json.field_addNull_last "spec" v "spec")
  | venafi =>
    exact ignores_ofSpec
      (((Ignores.nil VenafiSpec.ofJson).optionalPart "venafi" "spec").ofMember "spec" "manifest")
  | ofVenafi h => exact ignores_ofSpec (ignores_venafiOfJson h)
  | status =>
    exact ignores_ofStatus fun v =>
      conditionsOfJson_congr (Json.field_addNull_last "status" v "status")
  | conditions => exact ignores_ofStatus (ignores_conditionsOfJson (Ignores.nil _))
  | ofCondition i h =>
    exact ignores_ofStatus (ignores_conditionsOfJson (Condition.ignores_listOfJson h i))

end Issuer

end Issuers

/-! ## Secrets -/

namespace Secret

/-- The optional members of the manifest of a secret. -/
inductive Optional : Place → Prop where
  | kind : Optional [.member "kind"]
  | ns : Optional [.member "metadata", .member "namespace"]
  | data : Optional [.member "data"]
  | stringData : Optional [.member "stringData"]

/-- The optional members of a manifest of secrets, be it one secret, a list that says so,
or a bare array. -/
inductive ListOptional : Place → Prop where
  | ofSecret {place : Place} (h : Optional place) : ListOptional place
  | items : ListOptional [.member "items"]
  | ofItem (i : Nat) {place : Place} (h : Optional place) :
      ListOptional (.member "items" :: .item i :: place)
  | ofElement (i : Nat) {place : Place} (h : Optional place) : ListOptional (.item i :: place)

variable {place : Place} {defaultNamespace : String}

/-- A secret is read in four parts. -/
theorem ofJson_congr {v v' : Json} (hobject : v'.isObject = v.isObject)
    (hmetadata : ∀ key, (v'.field "metadata").field key = (v.field "metadata").field key)
    (hkind : v'.field "kind" = v.field "kind") (hdata : v'.field "data" = v.field "data")
    (hstringData : v'.field "stringData" = v.field "stringData") :
    ofJson defaultNamespace v' = ofJson defaultNamespace v := by
  simp only [ofJson, kindOfJson, nameOfJson, namespaceOfJson, optionalObject, hobject, hmetadata,
    hkind, hdata, hstringData]

theorem ignores_ofJson_last (defaultNamespace key : String) :
    Ignores (ofJson defaultNamespace) [.member key] := by
  intro v
  refine ofJson_congr (Json.isObject_addNull _ v) (fun q => ?_) ?_ ?_ ?_
  · rw [Json.field_addNull_last]
  · exact Json.field_addNull_last ..
  · exact Json.field_addNull_last ..
  · exact Json.field_addNull_last ..

theorem ignores_ofJson (h : Optional place) : Ignores (ofJson defaultNamespace) place := by
  cases h with
  | kind | data | stringData => exact ignores_ofJson_last defaultNamespace _
  | ns =>
    intro v
    refine ofJson_congr (Json.isObject_addNull _ v) (fun q => ?_) ?_ ?_ ?_
    · rw [Json.field_addNull_self, Json.field_addNull_last]
    · exact Json.field_addNull_of_ne (by decide) _ v
    · exact Json.field_addNull_of_ne (by decide) _ v
    · exact Json.field_addNull_of_ne (by decide) _ v

/-- What is read of an object that says that it is a list: its items. -/
theorem ignores_itemsOfJson (h : Optional place) (i : Nat) :
    Ignores (fun v => itemsOfJson v >>= fun vs => vs.mapM (ofJson defaultNamespace))
      (.member "items" :: .item i :: place) := by
  intro v
  dsimp only
  unfold itemsOfJson
  rw [Json.field_addNull_self]
  cases v.field "items" with
  | arr vs => exact (ignores_ofJson h).mapM i vs
  | _ => rfl

theorem listOfJson_congr {v v' : Json} (hobject : v'.isObject = v.isObject)
    (hv : v.isObject = true) (hkind : v'.field "kind" = v.field "kind")
    (hitems : (itemsOfJson v' >>= fun vs => vs.mapM (ofJson defaultNamespace)) =
      itemsOfJson v >>= fun vs => vs.mapM (ofJson defaultNamespace))
    (hone : ofJson defaultNamespace v' = ofJson defaultNamespace v) :
    listOfJson defaultNamespace v' = listOfJson defaultNamespace v := by
  have hkinds : kindOfJson v' "manifest" = kindOfJson v "manifest" := by
    unfold kindOfJson
    rw [hkind]
  rw [listOfJson_of_isObject hv, listOfJson_of_isObject (hobject.trans hv), hkinds, hitems, hone]

/-- A reader of secrets ignores a member of an object that its parts ignore. -/
theorem ignores_listOfJson_member {key : String}
    (hkind : ∀ v, (addNull (.member key :: place) v).field "kind" = v.field "kind")
    (hitems : Ignores (fun v => itemsOfJson v >>= fun vs => vs.mapM (ofJson defaultNamespace))
      (.member key :: place))
    (hone : Ignores (ofJson defaultNamespace) (.member key :: place)) :
    Ignores (listOfJson defaultNamespace) (.member key :: place) := by
  intro v
  cases hobject : v.isObject with
  | false => rw [Json.addNull_member_of_not_isObject hobject]
  | true =>
    exact listOfJson_congr (Json.isObject_addNull _ v) hobject (hkind v) (hitems v) (hone v)

theorem itemsOfJson_congr {v v' : Json} (h : v'.field "items" = v.field "items") :
    itemsOfJson v' = itemsOfJson v := by
  unfold itemsOfJson
  rw [h]

theorem ignores_listOfJson_last (defaultNamespace key : String) :
    Ignores (listOfJson defaultNamespace) [.member key] := by
  refine ignores_listOfJson_member (fun v => Json.field_addNull_last ..) (fun v => ?_)
    (ignores_ofJson_last defaultNamespace key)
  dsimp only
  rw [itemsOfJson_congr (Json.field_addNull_last ..)]

theorem ignores_listOfJson (h : ListOptional place) :
    Ignores (listOfJson defaultNamespace) place := by
  cases h with
  | ofSecret h =>
    have hone : Ignores (ofJson defaultNamespace) place := ignores_ofJson h
    cases h with
    | kind | data | stringData => exact ignores_listOfJson_last defaultNamespace _
    | ns =>
      refine ignores_listOfJson_member (fun v => Json.field_addNull_of_ne (by decide) _ v)
        (fun v => ?_) hone
      dsimp only
      rw [itemsOfJson_congr (Json.field_addNull_of_ne (by decide) _ v)]
  | items => exact ignores_listOfJson_last defaultNamespace _
  | ofItem i h =>
    refine ignores_listOfJson_member (fun v => Json.field_addNull_of_ne (by decide) _ v)
      (ignores_itemsOfJson h i) fun v => ?_
    refine ofJson_congr (Json.isObject_addNull _ v) (fun q => ?_) ?_ ?_ ?_
    · rw [Json.field_addNull_of_ne (by decide)]
    · exact Json.field_addNull_of_ne (by decide) _ v
    · exact Json.field_addNull_of_ne (by decide) _ v
    · exact Json.field_addNull_of_ne (by decide) _ v
  | ofElement i h =>
    intro v
    cases v with
    | arr vs => exact (ignores_ofJson h).mapM i vs
    | _ => rfl

end Secret

/-! ## Where null does not mean absent -/

/-- The place of the reference to a trust bundle in the manifest of an issuer. -/
def bundleRefPlace : Place :=
  [.member "spec", .member "venafi", .member "tpp", .member "caBundleSecretRef"]

/-- The failure of a reference to a trust bundle that is null. -/
def nullBundleRef : Failure :=
  .configuration "spec.venafi.tpp.caBundleSecretRef must be an object"

section NullBundleRef

variable {v : Json}

/-- Only an object has a member that is an object. -/
theorem Json.isObject_of_field {key : String} (h : (v.field key).isObject = true) :
    v.isObject = true := by
  cases v with
  | obj ms => rfl
  | _ => cases h

theorem Manifest.optionalObject_of_isObject {key label : String}
    (h : (v.field key).isObject = true) : optionalObject v key label = .ok (v.field key) := by
  rw [optionalObject_eq, h, Bool.or_true, if_pos rfl]

/-- A part that is refused with what was added to it is refused further up. -/
theorem Manifest.optionalPart_addNull_error {α : Type} {read : Json → Except Failure α}
    {key label : String} {place : Place} {f : Failure} (h : (v.field key).isObject = true)
    (hread : read (addNull place (v.field key)) = .error f) :
    optionalPart read (addNull (.member key :: place) v) key label = .error f := by
  have hobject : (addNull place (v.field key)).isObject = true := by
    rw [Json.isObject_addNull, h]
  unfold Manifest.optionalPart
  rw [optionalObject_addNull, optionalObject_of_isObject h]
  show (if (addNull place (v.field key)).isObject = true then
    (read (addNull place (v.field key))).map some else .ok none) = .error f
  rw [if_pos hobject, hread]
  rfl

theorem TppSpec.bundleRefOfJson_null (hobject : v.isObject = true)
    (hmissing : v.hasField "caBundleSecretRef" = false) :
    bundleRefOfJson (addNull [.member "caBundleSecretRef"] v) "spec.venafi.tpp" =
      .error nullBundleRef := by
  have hthere : (addNull [.member "caBundleSecretRef"] v).hasField "caBundleSecretRef" = true := by
    rw [Json.addNull, hobject, if_pos (by rw [List.isEmpty_nil, Bool.or_true]; rfl),
      Json.hasField_setField, beq_self_eq_true, Bool.true_or]
  have hnull : v.field "caBundleSecretRef" = .null := by
    unfold Json.hasField at hmissing
    unfold Json.field
    rw [Option.isSome_eq_false_iff, Option.isNone_iff_eq_none] at hmissing
    rw [hmissing]
    rfl
  unfold bundleRefOfJson
  rw [if_pos hthere, Json.field_addNull_last, hnull]
  rfl

theorem TppSpec.ofJson_null {tpp : TppSpec} (hread : ofJson v = .ok tpp)
    (hobject : v.isObject = true) (hmissing : v.hasField "caBundleSecretRef" = false) :
    ofJson (addNull [.member "caBundleSecretRef"] v) = .error nullBundleRef := by
  have hnull := bundleRefOfJson_null hobject hmissing
  obtain ⟨hurl, href, hcredentials, ⟨text, htext, hbundle⟩, -⟩ := ofJson_eq_ok_iff.1 hread
  unfold ofJson
  simp only [requiredText, optionalText, Json.field_addNull_last] at hurl hcredentials htext ⊢
  rw [hurl, ok_bind, if_pos href, hcredentials, ok_bind, htext, ok_bind, hbundle, ok_bind, hnull]
  rfl

theorem VenafiSpec.ofJson_null {venafi : VenafiSpec} (hread : ofJson v = .ok venafi)
    (htpp : (v.field "tpp").isObject = true)
    (hmissing : (v.field "tpp").hasField "caBundleSecretRef" = false) :
    ofJson (addNull [.member "tpp", .member "caBundleSecretRef"] v) = .error nullBundleRef := by
  rw [ofJson_eq] at hread ⊢
  obtain ⟨zone, hzone, hread⟩ := bind_eq_ok_iff.1 hread
  obtain ⟨part?, hpart, -⟩ := bind_eq_ok_iff.1 hread
  have hsame : requiredText (addNull [.member "tpp", .member "caBundleSecretRef"] v) "zone"
      "spec.venafi" = .ok zone := by
    rw [← hzone, requiredText, Json.field_addNull_of_ne (by decide), requiredText]
  unfold Manifest.optionalPart at hpart
  rw [optionalObject_of_isObject htpp, ok_bind, if_pos htpp] at hpart
  obtain ⟨part, hpart, -⟩ := map_eq_ok_iff.1 hpart
  rw [hsame, ok_bind,
    optionalPart_addNull_error htpp (TppSpec.ofJson_null hpart htpp hmissing)]
  rfl

namespace Issuer

variable {issuer : Issuer}

/-- The description of a Trust Protection Platform in the manifest of an issuer, or
`null`. -/
def tppOf (v : Json) : Json := ((v.field "spec").field "venafi").field "tpp"

theorem venafiOfJson_null {venafi? : Option VenafiSpec} (hread : venafiOfJson v = .ok venafi?)
    (htpp : (tppOf v).isObject = true)
    (hmissing : (tppOf v).hasField "caBundleSecretRef" = false) :
    venafiOfJson (addNull bundleRefPlace v) = .error nullBundleRef := by
  have hvenafi : ((v.field "spec").field "venafi").isObject = true := Json.isObject_of_field htpp
  have hspec : (v.field "spec").isObject = true := Json.isObject_of_field hvenafi
  rw [venafiOfJson_eq, optionalObject_of_isObject hspec, ok_bind] at hread
  unfold Manifest.optionalPart at hread
  rw [optionalObject_of_isObject hvenafi, ok_bind, if_pos hvenafi] at hread
  obtain ⟨venafi, hread, -⟩ := map_eq_ok_iff.1 hread
  rw [venafiOfJson_eq, bundleRefPlace, optionalObject_addNull, optionalObject_of_isObject hspec]
  exact optionalPart_addNull_error hvenafi (VenafiSpec.ofJson_null hread htpp hmissing)

/-- What is read before the backend is read is the same. -/
theorem ofJson_null (hread : ofJson v = .ok issuer) (htpp : (tppOf v).isObject = true)
    (hmissing : (tppOf v).hasField "caBundleSecretRef" = false) :
    ofJson (addNull bundleRefPlace v) = .error nullBundleRef := by
  have hsame : ∀ q, "spec" ≠ q → (addNull bundleRefPlace v).field q = v.field q :=
    fun q hq => Json.field_addNull_of_ne hq _ v
  have hkinds : kindOfJson (addNull bundleRefPlace v) = kindOfJson v := by
    simp only [kindOfJson, requiredText, hsame "kind" (by decide)]
  have hread := ofJson_eq_ok_iff.1 hread
  unfold ofJson
  dsimp only
  rw [Json.isObject_addNull, if_pos hread.isObject, hkinds, hread.kind, ok_bind,
    hsame "metadata" (by decide), if_pos hread.metadata, hread.name, ok_bind, hread.ns, ok_bind,
    hread.generation, ok_bind, if_neg hread.placed,
    venafiOfJson_null hread.venafi htpp hmissing]
  rfl

end Issuer

end NullBundleRef

/-! ## Null means absent -/

/-- **Null means absent.**  Adding `null` wherever optional members of a manifest are
missing, in any number of places, changes nothing of what is read of it: the issuer or the
secrets, or the failure with its message.  The one optional member of which this is not so
is the reference to a trust bundle.  An issuer that is read without it is refused when it
is null. -/
theorem Manifest.ignores_optional (v : Json) (places : List Place) (defaultNamespace : String) :
    ((∀ place ∈ places, Issuer.Optional place) →
        Issuer.ofJson (addNulls places v) = Issuer.ofJson v) ∧
      ((∀ place ∈ places, Secret.ListOptional place) →
        Secret.listOfJson defaultNamespace (addNulls places v) =
          Secret.listOfJson defaultNamespace v) ∧
      ∀ issuer, Issuer.ofJson v = .ok issuer → (Issuer.tppOf v).isObject = true →
        (Issuer.tppOf v).hasField "caBundleSecretRef" = false →
          Issuer.ofJson (addNull bundleRefPlace v) = .error nullBundleRef := by
  refine ⟨fun hplaces => ?_, fun hplaces => ?_, fun issuer hread htpp hmissing => ?_⟩
  · exact Ignores.addNulls (fun place hplace => Issuer.ignores_ofJson (hplaces place hplace)) v
  · exact Ignores.addNulls (fun place hplace => Secret.ignores_listOfJson (hplaces place hplace)) v
  · exact Issuer.ofJson_null hread htpp hmissing

/-- The manifest of an issuer with what is required and with a condition. -/
def Issuer.bareManifest : Json :=
  Json.ofMembers [("kind", .str "ClusterIssuer"),
    ("metadata", Json.ofMembers [("name", .str "tpp-issuer")]),
    ("spec", Json.ofMembers [("venafi", Json.ofMembers [("zone", .str "Default"),
      ("tpp", Json.ofMembers [("url", .str "tpp.example.com"),
        ("credentialsRef", Json.ofMembers [("name", .str "credentials")])])])]),
    ("status", Json.ofMembers [("conditions", .arr [Json.ofMembers [("type", .str "Ready")]])])]

/-- The issuer of that manifest. -/
def Issuer.bareIssuer : Issuer where
  kind := .cluster
  name := "tpp-issuer"
  venafi := some
    { zone := "Default", tpp := some { url := "tpp.example.com", credentials := "credentials" } }
  conditions := [{ type := "Ready" }]

/-- The places of some optional members, at every depth. -/
def Issuer.somePlaces : List Place :=
  [[.member "metadata", .member "namespace"],
    [.member "spec", .member "venafi", .member "cloud"],
    [.member "spec", .member "venafi", .member "tpp", .member "caBundle"],
    [.member "status", .member "conditions", .item 0, .member "lastTransitionTime"]]

/-- The manifest of a secret with what is required. -/
def Secret.bareManifest : Json :=
  Json.ofMembers [("metadata", Json.ofMembers [("name", .str "credentials")])]

/-- The places of the optional members of a secret. -/
def Secret.somePlaces : List Place :=
  [[.member "kind"], [.member "metadata", .member "namespace"], [.member "data"],
    [.member "stringData"], [.member "items"]]

theorem Manifest.ignores_somePlaces :
    (∀ place ∈ Issuer.somePlaces, Issuer.Optional place) ∧
      addNulls Issuer.somePlaces Issuer.bareManifest ≠ Issuer.bareManifest ∧
      Issuer.ofJson (addNulls Issuer.somePlaces Issuer.bareManifest) = .ok Issuer.bareIssuer ∧
      (∀ place ∈ Secret.somePlaces, Secret.ListOptional place) ∧
      Secret.listOfJson "team" (addNulls Secret.somePlaces Secret.bareManifest) =
        .ok [{ name := "credentials", ns := "team", data := [] }] ∧
      Issuer.ofJson (addNull bundleRefPlace Issuer.bareManifest) = .error nullBundleRef := by
  have hplaces : ∀ place ∈ Issuer.somePlaces, Issuer.Optional place := by
    simp only [Issuer.somePlaces, List.forall_mem_cons]
    exact ⟨.ns, .ofVenafi .cloud, .ofVenafi (.ofTpp .caBundle), .ofCondition 0 .lastTransitionTime,
      nofun⟩
  have hsecret : ∀ place ∈ Secret.somePlaces, Secret.ListOptional place := by
    simp only [Secret.somePlaces, List.forall_mem_cons]
    exact ⟨.ofSecret .kind, .ofSecret .ns, .ofSecret .data, .ofSecret .stringData, .items, nofun⟩
  obtain ⟨hissuer, -, hrefused⟩ := ignores_optional Issuer.bareManifest Issuer.somePlaces ""
  refine ⟨hplaces, ?_, ?_, hsecret, ?_, hrefused Issuer.bareIssuer rfl rfl (by decide +kernel)⟩
  · intro hsame
    have hfield := congrArg (fun v => (v.field "metadata").hasField "namespace") hsame
    exact absurd hfield (by decide +kernel)
  · rw [hissuer hplaces]
    rfl
  · rw [(ignores_optional Secret.bareManifest Secret.somePlaces "team").2.1 hsecret]
    rfl

/-- An issuer that is read, and is refused with a reference to a trust bundle that is
null. -/
theorem Issuer.ofJson_bareManifest :
    Issuer.ofJson bareManifest = .ok bareIssuer ∧
      (tppOf bareManifest).hasField "caBundleSecretRef" = false ∧
      Issuer.ofJson (addNull bundleRefPlace bareManifest) = .error
        (.configuration "spec.venafi.tpp.caBundleSecretRef must be an object") ∧
      Issuer.ofJson (addNull bundleRefPlace bareManifest) ≠ Issuer.ofJson bareManifest := by
  have hread : Issuer.ofJson bareManifest = .ok bareIssuer := rfl
  have hrefused : Issuer.ofJson (addNull bundleRefPlace bareManifest) = .error
      (.configuration "spec.venafi.tpp.caBundleSecretRef must be an object") := rfl
  refine ⟨hread, by decide +kernel, hrefused, fun hsame => ?_⟩
  cases hrefused.symm.trans (hsame.trans hread)

end IssuerReadiness
