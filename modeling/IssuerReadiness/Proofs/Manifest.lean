import Mathlib.Data.List.Forall2
import IssuerReadiness.Issuer.Manifest
import IssuerReadiness.Proofs.Failure

/-!
# Members, written and read

A manifest is written as a list of members and read key by key.  This module is the
bridge between the two: what an object has under a key is decided by its list of
members alone (`Json.field_ofMembers`), and what a reader makes of it is decided by that
value alone (`requiredText_eq_ok_iff` and the lemmas behind it).

The readers are composed in `Except`.  A composed reader that gives a result is taken
apart with `bind_eq_ok_iff`, and put together again with `ok_bind`.  For the two long ones this is
done once: `Issuer.ReadFrom` and `TppSpec.ReadFrom` say member by member what was read.
-/

namespace IssuerReadiness

open Manifest

/-! ## Members of an object -/

namespace Json

/-- The last value that a list of members has under a key. -/
def lastMember? (key : String) (ms : List (String × Json)) : Option Json :=
  (ms.reverse.find? (·.1 == key)).map (·.2)

theorem field_ofMembers (ms : List (String × Json)) (key : String) :
    (ofMembers ms).field key = (lastMember? key ms).getD .null :=
  congrArg (·.getD Json.null) (Keyed.find?_ofList key ms)

theorem hasField_ofMembers (ms : List (String × Json)) (key : String) :
    (ofMembers ms).hasField key = (lastMember? key ms).isSome :=
  congrArg Option.isSome (Keyed.find?_ofList key ms)

@[simp] theorem isObject_ofMembers (ms : List (String × Json)) :
    (ofMembers ms).isObject = true := rfl

/-- Only an object has a member that is not null. -/
theorem isObject_of_field_ne_null {v : Json} {key : String} (h : v.field key ≠ .null) :
    v.isObject = true := by
  cases v with
  | obj ms => rfl
  | _ => exact absurd rfl h

/-- A member that is not null is there. -/
theorem find?_of_field {v w : Json} {key : String} (h : v.field key = w) (hw : w ≠ .null) :
    Keyed.find? key v.members = some w := by
  unfold field at h
  cases hfind : Keyed.find? key v.members with
  | some w' => rw [← h, hfind, Option.getD_some]
  | none =>
    rw [hfind] at h
    exact absurd h.symm hw

@[simp] theorem lastMember?_nil (key : String) : lastMember? key [] = none := rfl

@[simp] theorem lastMember?_append (key : String) (ms ns : List (String × Json)) :
    lastMember? key (ms ++ ns) = (lastMember? key ns).or (lastMember? key ms) := by
  simp only [lastMember?, List.reverse_append, List.find?_append]
  cases ns.reverse.find? (·.1 == key) <;> rfl

@[simp] theorem lastMember?_cons (key k : String) (v : Json) (ms : List (String × Json)) :
    lastMember? key ((k, v) :: ms) =
      (lastMember? key ms).or (if k = key then some v else none) := by
  rw [← List.singleton_append, lastMember?_append]
  by_cases h : k = key <;> simp [lastMember?, h]

@[simp] theorem lastMember?_textMember (key k s : String) :
    lastMember? key (textMember k s) = if k = key ∧ s ≠ "" then some (.str s) else none := by
  unfold textMember
  by_cases hs : s = ""
  · simp [hs]
  · by_cases hk : k = key <;> simp [hs, hk]

end Json

/-! ## Readers -/

namespace Manifest

variable {α β : Type} {obj : Json} {key place : String}

/-- What a required text is read as is not empty, and it is read only from itself. -/
theorem requiredText_eq_ok_iff {s : String} :
    requiredText obj key place = .ok s ↔ obj.field key = .str s ∧ s ≠ "" := by
  unfold requiredText refuse
  cases obj.field key with
  | str t => by_cases ht : t = "" <;> grind
  | _ => simp

theorem optionalText_eq_ok_iff {s : String} :
    optionalText obj key place = .ok s ↔
      obj.field key = .str s ∨ obj.field key = .null ∧ s = "" := by
  unfold optionalText refuse
  cases obj.field key <;> grind

/-- A text that is left out if it is empty is read back. -/
theorem optionalText_of_field {s : String}
    (h : obj.field key = if s = "" then .null else .str s) :
    optionalText obj key place = .ok s := by
  refine optionalText_eq_ok_iff.2 ?_
  by_cases hs : s = ""
  · exact Or.inr ⟨by rw [h, if_pos hs], hs⟩
  · exact Or.inl (by rw [h, if_neg hs])

/-- A number that was read fits 64 bits with a sign at its upper end. -/
theorem lt_of_optionalInt_eq_ok {n : Int} (h : optionalInt obj key place = .ok n) :
    n < Number.signedLimit := by
  unfold optionalInt at h
  split at h
  · cases h
    decide
  · split at h
    · split at h
      · cases h
        assumption
      · cases h
    · cases h
  · cases h

/-- A number that is left out if it is zero is read back. -/
theorem optionalInt_of_field {n : Int}
    (h : obj.field key = if n = 0 then .null else .int n) (hn : n < Number.signedLimit) :
    optionalInt obj key place = .ok n := by
  unfold optionalInt
  by_cases hzero : n = 0
  · rw [h, if_pos hzero, hzero]
  · rw [h, if_neg hzero]
    exact if_pos hn

/-! ## Parts -/

theorem optionalObject_eq_ok_iff {w : Json} :
    optionalObject obj key place = .ok w ↔
      obj.field key = w ∧ (w = .null ∨ w.isObject = true) := by
  unfold optionalObject refuse
  cases obj.field key with
  | null => grind
  | _ => cases w <;> simp [Json.isObject]

theorem optionalObject_of_ofMembers {ms : List (String × Json)}
    (h : obj.field key = Json.ofMembers ms) :
    optionalObject obj key place = .ok (Json.ofMembers ms) := by
  unfold optionalObject
  rw [h]
  rfl

theorem optionalObject_of_null (h : obj.field key = .null) :
    optionalObject obj key place = .ok .null := by
  unfold optionalObject
  rw [h]

/-- The reader of a part that may be absent or null, made from the reader of the part. -/
def optionalPart (read : Json → Except Failure α) (obj : Json) (key place : String) :
    Except Failure (Option α) := do
  let v ← optionalObject obj key place
  if v.isObject then (read v).map some else .ok none

variable {read : Json → Except Failure α} {write : α → Json} {part? : Option α}

/-- A part that is there was read by the reader of the part. -/
theorem exists_of_optionalPart_eq_ok (h : optionalPart read obj key place = .ok part?) {part : α}
    (hpart : part? = some part) : ∃ v, read v = .ok part := by
  obtain ⟨v, -, h⟩ := bind_eq_ok_iff.1 h
  split at h
  · obtain ⟨part', hread, rfl⟩ := map_eq_ok_iff.1 h
    exact ⟨v, Option.some.inj hpart ▸ hread⟩
  · cases h
    cases hpart

/-- A part that is left out if it is absent is read back, if it is read back when it
is there. -/
theorem optionalPart_of_field (h : obj.field key = (part?.map write).getD .null)
    (hpart : ∀ part, part? = some part →
      (∃ ms, write part = Json.ofMembers ms) ∧ read (write part) = .ok part) :
    optionalPart read obj key place = .ok part? := by
  refine bind_eq_ok_iff.2 ?_
  cases part? with
  | none => exact ⟨.null, optionalObject_of_null h, rfl⟩
  | some part =>
    obtain ⟨⟨ms, hms⟩, hread⟩ := hpart part rfl
    rw [Option.map_some, Option.getD_some, hms] at h
    refine ⟨_, optionalObject_of_ofMembers h, ?_⟩
    rw [if_pos (Json.isObject_ofMembers ms), ← hms, hread]
    rfl

/-! ## Lists -/

/-- A list is read item by item, in order. -/
theorem mapM_eq_ok_iff {f : α → Except Failure β} {xs : List α} {ys : List β} :
    xs.mapM f = .ok ys ↔ List.Forall₂ (fun x y => f x = .ok y) xs ys := by
  induction xs generalizing ys with
  | nil =>
    rw [List.forall₂_nil_left_iff]
    exact ⟨fun h => (Except.ok.inj h).symm, fun h => congrArg Except.ok h.symm⟩
  | cons x xs ih =>
    rw [List.mapM_cons, List.forall₂_cons_left_iff]
    constructor
    · intro h
      obtain ⟨y, hy, h⟩ := bind_eq_ok_iff.1 h
      obtain ⟨ys', hys, h⟩ := bind_eq_ok_iff.1 h
      exact ⟨y, ys', hy, ih.1 hys, (Except.ok.inj h).symm⟩
    · rintro ⟨y, ys', hy, hys, rfl⟩
      rw [hy, ok_bind, ih.2 hys, ok_bind]
      rfl

/-- Of lists that are related place by place, what is in the second is related to something in
the first. -/
theorem exists_of_forall₂ {R : α → β → Prop} {xs : List α} {ys : List β}
    (h : List.Forall₂ R xs ys) : ∀ y ∈ ys, ∃ x ∈ xs, R x y := by
  intro z hz
  induction h with
  | nil => cases hz
  | cons hxy _ ih =>
    rcases List.mem_cons.1 hz with rfl | hz
    · exact ⟨_, List.mem_cons_self, hxy⟩
    · obtain ⟨x, hx, hxz⟩ := ih hz
      exact ⟨x, List.mem_cons_of_mem _ hx, hxz⟩

/-- What a list is read as was read item by item. -/
theorem exists_of_mapM_eq_ok {f : α → Except Failure β} {xs : List α} {ys : List β}
    (h : xs.mapM f = .ok ys) : ∀ y ∈ ys, ∃ x ∈ xs, f x = .ok y :=
  exists_of_forall₂ (mapM_eq_ok_iff.1 h)

/-- A list that was read was read in each of its items. -/
theorem exists_eq_ok_of_mapM_eq_ok {f : α → Except Failure β} {xs : List α} {ys : List β}
    (h : xs.mapM f = .ok ys) : ∀ x ∈ xs, ∃ y, f x = .ok y := by
  have hflip : List.Forall₂ (fun y x => f x = .ok y) ys xs := (mapM_eq_ok_iff.1 h).flip
  intro x hx
  obtain ⟨y, -, hy⟩ := exists_of_forall₂ hflip x hx
  exact ⟨y, hy⟩

/-- A list is read back if each of its items is. -/
theorem mapM_map_eq_ok {f : α → Except Failure β} {g : β → α} {ys : List β}
    (h : ∀ y ∈ ys, f (g y) = .ok y) : (ys.map g).mapM f = .ok ys := by
  rw [mapM_eq_ok_iff, List.forall₂_map_left_iff]
  exact List.forall₂_same.2 h

/-- A list is read item by item, if no item is at fault, and else refused for the first one
that is. -/
theorem mapM_map_eq_ite {γ : Type} {f : α → Except Failure β} {g : γ → α} {again : γ → β}
    {bad : γ → Prop} [DecidablePred bad] {failure : Failure} {xs : List γ}
    (h : ∀ x ∈ xs, f (g x) = if bad x then .error failure else .ok (again x)) :
    (xs.map g).mapM f = if ∃ x ∈ xs, bad x then .error failure else .ok (xs.map again) := by
  induction xs with
  | nil => rfl
  | cons x xs ih =>
    have htail := ih fun y hy => h y (List.mem_cons_of_mem _ hy)
    rw [List.map_cons, List.mapM_cons, h x List.mem_cons_self]
    by_cases hbad : bad x
    · rw [if_pos hbad, if_pos ⟨x, List.mem_cons_self, hbad⟩]
      rfl
    · rw [if_neg hbad, ok_bind, htail]
      by_cases hrest : ∃ y ∈ xs, bad y
      · obtain ⟨y, hy, hbad'⟩ := hrest
        rw [if_pos ⟨y, hy, hbad'⟩, if_pos ⟨y, List.mem_cons_of_mem _ hy, hbad'⟩]
        rfl
      · have hall : ¬ ∃ y ∈ x :: xs, bad y := by
          rintro ⟨y, hy, hbad'⟩
          rcases List.mem_cons.1 hy with rfl | hy
          · exact hbad hbad'
          · exact hrest ⟨y, hy, hbad'⟩
        rw [if_neg hrest, if_neg hall]
        rfl

end Manifest

/-! ## Readers of many members -/

/-- What the description of a Trust Protection Platform has from its manifest. -/
structure TppSpec.ReadFrom (v : Json) (tpp : TppSpec) : Prop where
  url : requiredText v "url" "spec.venafi.tpp" = .ok tpp.url
  isObject : (v.field "credentialsRef").isObject = true
  credentials : requiredText (v.field "credentialsRef") "name"
    ("spec.venafi.tpp" ++ ".credentialsRef") = .ok tpp.credentials
  bundle : ∃ text, optionalText v "caBundle" "spec.venafi.tpp" = .ok text ∧
    bundleOfText text "spec.venafi.tpp" = .ok tpp.caBundle
  bundleRef : bundleRefOfJson v "spec.venafi.tpp" = .ok tpp.caBundleRef

theorem TppSpec.ofJson_eq_ok_iff {v : Json} {tpp : TppSpec} :
    ofJson v = .ok tpp ↔ ReadFrom v tpp := by
  constructor
  · intro h
    unfold ofJson at h
    dsimp only at h
    obtain ⟨url, hurl, h⟩ := bind_eq_ok_iff.1 h
    split at h
    · next hobject =>
      obtain ⟨credentials, hcredentials, h⟩ := bind_eq_ok_iff.1 h
      obtain ⟨text, htext, h⟩ := bind_eq_ok_iff.1 h
      obtain ⟨bundle, hbundle, h⟩ := bind_eq_ok_iff.1 h
      obtain ⟨bundleRef, href, h⟩ := bind_eq_ok_iff.1 h
      cases h
      exact ⟨hurl, hobject, hcredentials, ⟨text, htext, hbundle⟩, href⟩
    · cases h
  · rintro ⟨hurl, hobject, hcredentials, ⟨text, htext, hbundle⟩, href⟩
    unfold ofJson
    dsimp only
    rw [hurl, ok_bind, if_pos hobject, hcredentials, ok_bind, htext, ok_bind, hbundle, ok_bind,
      href, ok_bind]
    rfl

/-- What an issuer has from its manifest. -/
structure Issuer.ReadFrom (v : Json) (issuer : Issuer) : Prop where
  isObject : v.isObject = true
  kind : kindOfJson v = .ok issuer.kind
  metadata : (v.field "metadata").isObject = true
  name : requiredText (v.field "metadata") "name" "metadata" = .ok issuer.name
  ns : optionalText (v.field "metadata") "namespace" "metadata" = .ok issuer.ns
  generation : optionalInt (v.field "metadata") "generation" "metadata" = .ok issuer.generation
  placed : ¬ (issuer.kind = .namespaced ∧ issuer.ns = "")
  venafi : venafiOfJson v = .ok issuer.venafi
  conditions : conditionsOfJson v = .ok issuer.conditions

theorem Issuer.ofJson_eq_ok_iff {v : Json} {issuer : Issuer} :
    ofJson v = .ok issuer ↔ ReadFrom v issuer := by
  constructor
  · intro h
    unfold ofJson at h
    dsimp only at h
    split at h
    · next hobject =>
      obtain ⟨kind, hkind, h⟩ := bind_eq_ok_iff.1 h
      split at h
      · next hmetadata =>
        obtain ⟨name, hname, h⟩ := bind_eq_ok_iff.1 h
        obtain ⟨ns, hns, h⟩ := bind_eq_ok_iff.1 h
        obtain ⟨generation, hgeneration, h⟩ := bind_eq_ok_iff.1 h
        split at h
        · cases h
        · next hplaced =>
          obtain ⟨venafi, hvenafi, h⟩ := bind_eq_ok_iff.1 h
          obtain ⟨conditions, hconditions, h⟩ := bind_eq_ok_iff.1 h
          cases h
          exact ⟨hobject, hkind, hmetadata, hname, hns, hgeneration, hplaced, hvenafi,
            hconditions⟩
      · cases h
    · cases h
  · rintro ⟨hobject, hkind, hmetadata, hname, hns, hgeneration, hplaced, hvenafi, hconditions⟩
    unfold ofJson
    dsimp only
    rw [if_pos hobject, hkind, ok_bind, if_pos hmetadata, hname, ok_bind, hns, ok_bind,
      hgeneration, ok_bind, if_neg hplaced, hvenafi, ok_bind, hconditions, ok_bind]
    rfl

end IssuerReadiness
