import IssuerReadiness.Proofs.Base64.Blocks
import IssuerReadiness.Proofs.Manifest.Null

/-!
# Values that are no base64

A text is padded base64 if its length is a multiple of four, all its characters are of the
alphabet, and `=` stands nowhere but as the last one or the last two of them.  It can fail in
each of these ways, and the reader looks at two of them only: it counts the characters, and it
takes `=` for one more letter.

What is refused is refused wherever it stands.  A manifest of secrets of any form is refused
as a configuration if one value of `data` in one of its items is misspelled, and the manifest
of an issuer if its trust bundle is.  The one thing that can come before the trust bundle and
is no refusal of the configuration is the conversion of an oversized generation.

What is not refused is read: a `=` in the middle of a text gives zero bits, and the secret has
a value that nobody has written (`decode_misplacedPad`).

* `Base64.Misspelled`, `Base64.Misplaced`: how a text fails to be padded base64.
* `Secret.exists_decode_of_listOfJson`, `Issuer.exists_decode_of_venafiOfJson`: what is read of
  a manifest was decoded.
* `Manifest.refuses_misspelled`: what is refused, and where.
-/

namespace IssuerReadiness

open Manifest

/-! ## Texts -/

namespace Base64

/-- The text does not consist of whole groups, or has a character that is neither of the
alphabet nor `=`. -/
def Misspelled (cs : List Char) : Prop :=
  cs.length % 4 ≠ 0 ∨ ∃ c ∈ cs, symbolValue? c = none ∧ c ≠ '='

/-- The text has a `=` that is neither its last character nor the first of the two that
close it. -/
def Misplaced (cs : List Char) : Prop :=
  ∃ front back, cs = front ++ '=' :: back ∧ back ≠ [] ∧ back ≠ ['=']

/-- The text is no padded base64. -/
def Malformed (cs : List Char) : Prop :=
  Misspelled cs ∨ Misplaced cs

theorem isLetter_eq_false_iff {c : Char} :
    isLetter c = false ↔ symbolValue? c = none ∧ c ≠ '=' := by
  simp [isLetter]

/-- **What is refused** is what is misspelled. -/
theorem decode_eq_none_iff_misspelled {s : String} : decode s = none ↔ Misspelled s.toList := by
  rw [decode_eq_none_iff, ← Bool.not_eq_true, isWellSpelled_iff, Misspelled, not_and_or, or_comm]
  simp only [not_forall, exists_prop, Bool.not_eq_true, isLetter_eq_false_iff, ne_eq]

end Base64

/-! ## Secrets -/

namespace Secret

/-- A value of `data` in an item of the manifest is the text. -/
def HasValue (v : Json) (s : String) : Prop :=
  ∃ item ∈ itemsOf v, ∃ key, (item.field "data").field key = .str s

/-- Values that were added were decoded. -/
theorem exists_decode_of_addEncoded {place key s : String} {values values' : Keyed Bytes}
    {ms : Keyed Json} (h : addEncoded place values ms = .ok values')
    (hs : Keyed.find? key ms = some (.str s)) : ∃ b, Base64.decode s = some b := by
  induction values, ms using addEncoded.induct with
  | case1 values => cases hs
  | case2 values key' s' rest b hb ih =>
    rw [addEncoded, hb] at h
    rw [Keyed.find?] at hs
    split at hs
    · cases hs
      exact ⟨b, hb⟩
    · exact ih h hs
  | case3 values key' s' rest hb =>
    rw [addEncoded, hb] at h
    cases h
  | case4 values key' v rest hv =>
    rw [addEncoded] at h
    · cases h
    · exact hv

theorem exists_decode_of_listOfJson {defaultNamespace s : String} {v : Json}
    {secrets : List Secret} (h : listOfJson defaultNamespace v = .ok secrets)
    (hs : HasValue v s) : ∃ b, Base64.decode s = some b := by
  obtain ⟨item, hitem, key, hvalue⟩ := hs
  obtain ⟨secret, hread⟩ := exists_eq_ok_of_mapM_eq_ok (mapM_itemsOf h) item hitem
  obtain ⟨values, hvalues, -⟩ := (ofJson_eq_ok_iff.1 hread).values
  exact exists_decode_of_addEncoded hvalues (Json.find?_of_field hvalue nofun)

end Secret

/-! ## Issuers -/

/-- A part that is there was read. -/
theorem Manifest.exists_of_optionalPart {α : Type} {read : Json → Except Failure α} {obj : Json}
    {key place : String} {part? : Option α} (h : optionalPart read obj key place = .ok part?)
    (hobject : (obj.field key).isObject = true) : ∃ part, read (obj.field key) = .ok part := by
  obtain ⟨v, hv, h⟩ := bind_eq_ok_iff.1 h
  obtain ⟨rfl, -⟩ := optionalObject_eq_ok_iff.1 hv
  rw [if_pos hobject] at h
  obtain ⟨part, hpart, -⟩ := map_eq_ok_iff.1 h
  exact ⟨part, hpart⟩

theorem TppSpec.exists_decode_of_bundleOfText {s place : String} {b : Bytes}
    (h : bundleOfText s place = .ok b) : ∃ b, Base64.decode s = some b := by
  unfold bundleOfText at h
  split at h
  · next hempty => exact ⟨[], by rw [hempty, Base64.decode_empty]⟩
  · cases hs : Base64.decode s with
    | some b => exact ⟨b, rfl⟩
    | none =>
      rw [hs] at h
      cases h

theorem TppSpec.exists_decode_of_ofJson {v : Json} {tpp : TppSpec} {s : String}
    (h : TppSpec.ofJson v = .ok tpp) (hs : v.field "caBundle" = .str s) :
    ∃ b, Base64.decode s = some b := by
  obtain ⟨text, htext, hbundle⟩ := (ofJson_eq_ok_iff.1 h).bundle
  rcases optionalText_eq_ok_iff.1 htext with hfield | ⟨hnull, -⟩
  · cases hs.symm.trans hfield
    exact exists_decode_of_bundleOfText hbundle
  · cases hs.symm.trans hnull

namespace Issuer

variable {v : Json} {s : String}

/-- The trust bundle of an issuer that was read was decoded. -/
theorem exists_decode_of_venafiOfJson {venafi? : Option VenafiSpec}
    (h : venafiOfJson v = .ok venafi?) (hs : (tppOf v).field "caBundle" = .str s) :
    ∃ b, Base64.decode s = some b := by
  have hbundle : (tppOf v).field "caBundle" ≠ .null := by
    rw [hs]
    nofun
  have htpp : (tppOf v).isObject = true := Json.isObject_of_field_ne_null hbundle
  have hvenafi : ((v.field "spec").field "venafi").isObject = true := Json.isObject_of_field htpp
  rw [venafiOfJson_eq] at h
  obtain ⟨spec, hspec, h⟩ := bind_eq_ok_iff.1 h
  obtain ⟨rfl, -⟩ := optionalObject_eq_ok_iff.1 hspec
  obtain ⟨venafi, h⟩ := exists_of_optionalPart h hvenafi
  rw [VenafiSpec.ofJson_eq] at h
  obtain ⟨zone, -, h⟩ := bind_eq_ok_iff.1 h
  obtain ⟨tpp?, htpp?, -⟩ := bind_eq_ok_iff.1 h
  obtain ⟨tpp, htpp⟩ := exists_of_optionalPart htpp? htpp
  exact TppSpec.exists_decode_of_ofJson htpp hs

/-- If the backend is refused, then what comes behind it is not looked at. -/
theorem refused_of_venafiOfJson (h : ∀ venafi?, venafiOfJson v ≠ .ok venafi?) :
    ∃ f, ofJson v = .error f ∧ f.OfReader [(v.field "metadata").field "generation"] := by
  have honly : FailsOnly (Failure.OfReader [(v.field "metadata").field "generation"])
      (ofJson v) := by
    unfold ofJson
    refine .ite ?_ (failsOnly_refuse _)
    refine (failsOnly_kindOfJson v).bind fun _ => .ite ?_ (failsOnly_refuse _)
    refine failsOnly_requiredText.bind fun _ => failsOnly_optionalText.bind fun _ => ?_
    refine (failsOnly_optionalInt List.mem_cons_self).bind fun _ => ?_
    refine .ite (failsOnly_refuse _) ?_
    exact (failsOnly_venafiOfJson v).bind_of_ok fun venafi? hvenafi => absurd hvenafi (h venafi?)
  cases hread : ofJson v with
  | error f => exact ⟨f, rfl, honly f hread⟩
  | ok issuer => exact absurd (ofJson_eq_ok_iff.1 hread).venafi (h issuer.venafi)

end Issuer

/-! ## Where it is refused -/

/-- **What is refused, and where.**  A text is no base64 to the reader exactly if it is
misspelled.  A manifest with such a value among the `data` of a secret is refused as a
configuration.  So is the manifest of an issuer with such a trust bundle, unless it is refused
before for a generation that is oversized. -/
theorem Manifest.refuses_misspelled (s : String) :
    (Base64.decode s = none ↔ Base64.Misspelled s.toList) ∧
      (Base64.Misspelled s.toList →
        (∀ defaultNamespace v, Secret.HasValue v s →
          ∃ message, Secret.listOfJson defaultNamespace v = .error (.configuration message)) ∧
        ∀ v, (Issuer.tppOf v).field "caBundle" = .str s →
          ∃ f, Issuer.ofJson v = .error f ∧
            f.OfReader [(v.field "metadata").field "generation"]) := by
  refine ⟨Base64.decode_eq_none_iff_misspelled, fun hmisspelled => ⟨?_, ?_⟩⟩
  · intro defaultNamespace v hvalue
    cases hread : Secret.listOfJson defaultNamespace v with
    | error f =>
      obtain ⟨message, rfl⟩ := failsOnly_listOfJson defaultNamespace v f hread
      exact ⟨message, rfl⟩
    | ok secrets =>
      obtain ⟨b, hb⟩ := Secret.exists_decode_of_listOfJson hread hvalue
      rw [Base64.decode_eq_none_iff_misspelled.2 hmisspelled] at hb
      cases hb
  · intro v hbundle
    refine Issuer.refused_of_venafiOfJson fun venafi? hvenafi => ?_
    obtain ⟨b, hb⟩ := Issuer.exists_decode_of_venafiOfJson hvenafi hbundle
    rw [Base64.decode_eq_none_iff_misspelled.2 hmisspelled] at hb
    cases hb

/-- A secret with a value that has `=` in the middle. -/
def Secret.garbledManifest : Json :=
  Json.ofMembers [("metadata", Json.ofMembers [("name", .str "credentials")]),
    ("data", Json.ofMembers [("access-token", .str "QQ==QQ==")])]

/-- A `=` in the middle is not refused, and the zero bits that it stands for are read. -/
theorem Base64.decode_misplacedPad :
    Malformed "QQ==QQ==".toList ∧ decode "QQ==QQ==" = some [0x41, 0, 0, 0x41] ∧
      Secret.HasValue Secret.garbledManifest "QQ==QQ==" ∧
      Secret.listOfJson "team" Secret.garbledManifest =
        .ok [{ name := "credentials", ns := "team",
               data := [("access-token", [0x41, 0, 0, 0x41])] }] := by
  refine ⟨.inr ⟨"QQ".toList, "=QQ==".toList, by decide, by decide, by decide⟩, by decide, ?_, ?_⟩
  · exact ⟨Secret.garbledManifest, List.mem_cons_self, "access-token", rfl⟩
  · rfl

end IssuerReadiness
