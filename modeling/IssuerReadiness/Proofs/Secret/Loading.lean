import IssuerReadiness.Proofs.Base64
import IssuerReadiness.Proofs.Keyed
import IssuerReadiness.Proofs.Secret.Manifest

/-!
# A secret has the values of its manifest

The manifest of a secret has two maps of values, one in base64 and one of plain text.  A
secret that is read of it has the values of both and no others, and under a key that is in
both it has the plain text.

Both maps are read member by member into the same list, the encoded one first.  For a map whose
values were encoded this comes to putting the members in as they are
(`addEncoded_encode`), and the second map is put over the first
(`Keyed.find?_insertAll`).  Nothing else of the object matters: neither what other members it
has, nor in which order they were written.

* `Secret.Describes`: the manifest of a secret.
* `Secret.loaded_of_describes`: the secret that is read.
-/

namespace IssuerReadiness
namespace Secret

open Manifest

variable {v : Json} {name : String} {ns? : Option String} {values : List (String × Bytes)}
  {texts : List (String × String)}

/-- The members of `data` for some values. -/
def encodedMembers (values : List (String × Bytes)) : List (String × Json) :=
  values.map fun p => (p.1, .str (Base64.encode p.2))

/-- The members of `stringData` for some texts. -/
def plainMembers (texts : List (String × String)) : List (String × Json) :=
  texts.map fun p => (p.1, .str p.2)

/-- The values that texts are. -/
def bytesOf (texts : List (String × String)) : List (String × Bytes) :=
  texts.map fun p => (p.1, Bytes.ofString p.2)

/-- The object is the manifest of a secret with a name, with a namespace if one is given, with
some values in base64 and some as plain text. -/
structure Describes (v : Json) (name : String) (ns? : Option String)
    (values : List (String × Bytes)) (texts : List (String × String)) : Prop where
  kind : v.field "kind" = .null ∨ v.field "kind" = .str "" ∨ v.field "kind" = .str "Secret"
  name : (v.field "metadata").field "name" = .str name
  ns : (v.field "metadata").field "namespace" = (ns?.map Json.str).getD .null
  data : v.field "data" = Json.ofMembers (encodedMembers values)
  stringData : v.field "stringData" = Json.ofMembers (plainMembers texts)

/-- Values that were encoded are added as they are. -/
theorem addEncoded_encode (place : String) (m : Keyed Bytes) (values : List (String × Bytes)) :
    addEncoded place m (encodedMembers values) = .ok (Keyed.insertAll m values) := by
  induction values generalizing m with
  | nil => rfl
  | cons p values ih =>
    show addEncoded place m ((p.1, .str (Base64.encode p.2)) :: encodedMembers values) = _
    rw [addEncoded, Base64.decode_encode]
    exact ih (Keyed.insert p.1 p.2 m)

/-- Texts are added as their bytes. -/
theorem addPlain_texts (place : String) (m : Keyed Bytes) (texts : List (String × String)) :
    addPlain place m (plainMembers texts) = .ok (Keyed.insertAll m (bytesOf texts)) := by
  induction texts generalizing m with
  | nil => rfl
  | cons p texts ih => exact ih (Keyed.insert p.1 (Bytes.ofString p.2) m)

/-- The values of a secret with some values and some texts. -/
def merged (values : List (String × Bytes)) (texts : List (String × String)) : Keyed Bytes :=
  Keyed.insertAll (Keyed.insertAll [] (Keyed.ofList values)) (bytesOf (Keyed.ofList texts))

theorem sorted_merged (values : List (String × Bytes)) (texts : List (String × String)) :
    Keyed.Sorted (merged values texts) :=
  Keyed.sorted_insertAll (Keyed.sorted_insertAll List.Pairwise.nil _) _

/-- Texts count before values. -/
theorem find?_merged (values : List (String × Bytes)) (texts : List (String × String))
    (key : String) :
    Keyed.find? key (merged values texts) =
      ((Keyed.find? key (Keyed.ofList texts)).map Bytes.ofString).or
        (Keyed.find? key (Keyed.ofList values)) := by
  have htexts : Keyed.Sorted (bytesOf (Keyed.ofList texts)) := by
    rw [bytesOf, ← Keyed.ofList_map fun _ => Bytes.ofString]
    exact Keyed.sorted_ofList _
  rw [merged, Keyed.find?_insertAll htexts, Keyed.find?_insertAll (Keyed.sorted_ofList values),
    bytesOf, Keyed.find?_map, Keyed.find?_nil, Option.or_none]

theorem mem_keys_merged_iff {key : String} :
    key ∈ (merged values texts).map Prod.fst ↔
      key ∈ values.map Prod.fst ∨ key ∈ texts.map Prod.fst := by
  rw [Keyed.mem_keys_iff, find?_merged, Option.isSome_or, Option.isSome_map, Bool.or_eq_true,
    ← Keyed.mem_keys_iff, ← Keyed.mem_keys_iff, Keyed.mem_keys_ofList_iff,
    Keyed.mem_keys_ofList_iff, or_comm]

theorem Describes.isSingle (h : Describes v name ns? values texts) : IsSingle v := by
  have hdata : v.field "data" ≠ .null := by
    rw [h.data]
    nofun
  refine ⟨Json.isObject_of_field_ne_null hdata, ?_, fun hlist => ?_⟩
  · rcases h.kind with hnull | hempty | hkind
    · exact .inl hnull
    · exact .inr ⟨_, hempty⟩
    · exact .inr ⟨_, hkind⟩
  · obtain ⟨kind, hlisted, hlist⟩ := hlist.exists_kind
    rcases h.kind with hkind | hkind | hkind <;> grind

/-- The secret of a manifest. -/
theorem Describes.ofJson_eq (h : Describes v name ns? values texts) (hname : name ≠ "")
    (defaultNamespace : String) :
    ofJson defaultNamespace v =
      .ok { name := name, ns := ns?.getD defaultNamespace, data := merged values texts } := by
  have hdata : (v.field "data").members = encodedMembers (Keyed.ofList values) := by
    rw [h.data]
    exact Keyed.ofList_map (fun _ b => Json.str (Base64.encode b)) values
  have hstringData : (v.field "stringData").members = plainMembers (Keyed.ofList texts) := by
    rw [h.stringData]
    exact Keyed.ofList_map (fun _ => Json.str) texts
  refine ofJson_eq_ok_iff.2 ⟨h.isSingle.isObject, h.kind, h.name, hname, ?_, .inr ?_, .inr ?_,
    Keyed.insertAll [] (Keyed.ofList values), ?_, ?_⟩
  · cases ns? with
    | none => exact .inr ⟨h.ns, rfl⟩
    | some ns => exact .inl h.ns
  · rw [h.data]
    rfl
  · rw [h.stringData]
    rfl
  · rw [hdata]
    exact addEncoded_encode _ _ _
  · rw [hstringData]
    exact addPlain_texts _ _ _

/-- **A secret has the values of its manifest.**  A manifest with some values in base64 and some
as plain text is read as one secret, with its name, and with its namespace or the default.
The keys of the secret are those of the two maps, each of them once, and under a key it has the
bytes of the text, if there is one, or else the value that was encoded. -/
theorem loaded_of_describes (h : Describes v name ns? values texts) (hname : name ≠ "")
    (defaultNamespace : String) :
    ∃ secret, listOfJson defaultNamespace v = .ok [secret] ∧ secret.name = name ∧
      secret.ns = ns?.getD defaultNamespace ∧ Keyed.Sorted secret.data ∧
      (∀ key, key ∈ secret.data.map Prod.fst ↔
        key ∈ values.map Prod.fst ∨ key ∈ texts.map Prod.fst) ∧
      ∀ key, secret.value? key =
        ((Keyed.find? key (Keyed.ofList texts)).map Bytes.ofString).or
          (Keyed.find? key (Keyed.ofList values)) := by
  refine ⟨{ name := name, ns := ns?.getD defaultNamespace, data := merged values texts }, ?_,
    rfl, rfl, sorted_merged values texts, fun key => mem_keys_merged_iff,
    find?_merged values texts⟩
  rw [listOfJson_of_single h.isSingle, listOfJson_arr, List.mapM_cons,
    h.ofJson_eq hname defaultNamespace, ok_bind, List.mapM_nil]
  rfl

/-- A manifest that states no namespace, with one key in both maps and a value that is no
text. -/
def overlappingManifest : Json :=
  Json.ofMembers [("apiVersion", .str "v1"), ("kind", .str "Secret"),
    ("metadata", Json.ofMembers [("name", .str "credentials")]),
    ("stringData", Json.ofMembers [("username", .str "root")]),
    ("data", Json.ofMembers [("username", .str "YWRtaW4="), ("access-token", .str "/wA=")])]

theorem loaded_overlappingManifest :
    Describes overlappingManifest "credentials" none
        [("username", Bytes.ofString "admin"), ("access-token", [0xff, 0])]
        [("username", "root")] ∧
      ∃ secret, listOfJson "team" overlappingManifest = .ok [secret] ∧
        secret.name = "credentials" ∧ secret.ns = "team" ∧
        secret.value? "username" = some (Bytes.ofString "root") ∧
        secret.value? "access-token" = some [0xff, 0] ∧ secret.value? "password" = none := by
  have hdescribes : Describes overlappingManifest "credentials" none
      [("username", Bytes.ofString "admin"), ("access-token", [0xff, 0])]
      [("username", "root")] := ⟨.inr (.inr rfl), rfl, rfl, rfl, rfl⟩
  obtain ⟨secret, hread, hname, hns, -, -, hvalue⟩ :=
    loaded_of_describes hdescribes (by decide) "team"
  refine ⟨hdescribes, secret, hread, hname, hns, ?_, ?_, ?_⟩
  · rw [hvalue]
    rfl
  · rw [hvalue]
    rfl
  · rw [hvalue]
    rfl

end Secret
end IssuerReadiness
