import IssuerReadiness.Proofs.Base64
import IssuerReadiness.Proofs.Manifest
import IssuerReadiness.Proofs.Timestamp

/-!
# Reading an issuer that was written

Reading accepts more manifests than writing produces, so that a manifest which was
read is in general not the one that is written.  What does come back is the issuer:
reading what was written of an issuer that was read gives that issuer.

The proof goes through the parts of an issuer from the inside out, and for each of
them in two steps.  A part that was read is `Readable` --- its required texts are not
empty, its numbers fit 64 bits, its times are whole seconds other than the one that
cannot be read --- and a part that is `Readable` is read back from its written form.
Between the two there is no mention of the manifest that was read first, so nothing
about its laxer forms is left to prove.

What a written part has under its keys is said once, in the lemmas `field_toJson`: a
member that is left out because it is empty, zero or absent reads as `null`, and that
reads as empty, zero or absent again.

* `Issuer.readable_of_ofJson`, `Issuer.ofJson_of_readable`: the two steps for issuers.
* `Issuer.ofJson_toJson_of_ofJson`: the round trip.
-/

namespace IssuerReadiness

open Manifest

/-! ## References to secrets -/

/-- A reference that can be read. -/
structure SecretRef.Readable (ref : SecretRef) : Prop where
  name : ref.name ≠ ""

theorem SecretRef.readable_of_ofJson {v : Json} {place : String} {ref : SecretRef}
    (h : SecretRef.ofJson v place = .ok ref) : ref.Readable := by
  unfold SecretRef.ofJson at h
  split at h
  · obtain ⟨name, hname, h⟩ := bind_eq_ok_iff.1 h
    obtain ⟨key, -, h⟩ := bind_eq_ok_iff.1 h
    cases h
    exact ⟨(requiredText_eq_ok_iff.1 hname).2⟩
  · cases h

theorem SecretRef.field_toJson (ref : SecretRef) :
    ref.toJson.field "name" = .str ref.name ∧
      ref.toJson.field "key" = if ref.key = "" then .null else .str ref.key := by
  unfold SecretRef.toJson
  by_cases hkey : ref.key = "" <;> simp [Json.field_ofMembers, hkey]

theorem SecretRef.ofJson_of_readable {ref : SecretRef} (h : ref.Readable) (place : String) :
    SecretRef.ofJson ref.toJson place = .ok ref := by
  obtain ⟨hname, hkey⟩ := ref.field_toJson
  have hobject : ref.toJson.isObject = true := rfl
  unfold SecretRef.ofJson
  rw [if_pos hobject, requiredText_eq_ok_iff.2 ⟨hname, h.name⟩, ok_bind,
    optionalText_of_field hkey, ok_bind]
  rfl

/-! ## The Trust Protection Platform -/

/-- A description of a Trust Protection Platform that can be read. -/
structure TppSpec.Readable (tpp : TppSpec) : Prop where
  url : tpp.url ≠ ""
  credentials : tpp.credentials ≠ ""
  caBundleRef : ∀ ref, tpp.caBundleRef = some ref → ref.Readable

theorem TppSpec.readable_of_ofJson {v : Json} {tpp : TppSpec} (h : TppSpec.ofJson v = .ok tpp) :
    tpp.Readable := by
  have hread := ofJson_eq_ok_iff.1 h
  refine ⟨(requiredText_eq_ok_iff.1 hread.url).2, (requiredText_eq_ok_iff.1 hread.credentials).2,
    fun ref hsome => ?_⟩
  have href := hread.bundleRef
  unfold bundleRefOfJson at href
  split at href
  · obtain ⟨ref', href', hsome'⟩ := map_eq_ok_iff.1 href
    cases hsome.symm.trans hsome'.symm
    exact SecretRef.readable_of_ofJson href'
  · cases hsome.symm.trans (Except.ok.inj href).symm

theorem TppSpec.field_toJson (tpp : TppSpec) :
    tpp.toJson.field "url" = .str tpp.url ∧
      tpp.toJson.field "credentialsRef" = Json.ofMembers [("name", .str tpp.credentials)] ∧
      (tpp.toJson.field "caBundle" =
        if tpp.caBundle = [] then .null else .str (Base64.encode tpp.caBundle)) ∧
      tpp.toJson.hasField "caBundleSecretRef" = tpp.caBundleRef.isSome ∧
      ∀ ref, tpp.caBundleRef = some ref →
        tpp.toJson.field "caBundleSecretRef" = ref.toJson := by
  obtain ⟨url, credentials, caBundle, caBundleRef⟩ := tpp
  unfold TppSpec.toJson
  by_cases hbundle : caBundle = [] <;> cases caBundleRef <;>
    simp [Json.field_ofMembers, Json.hasField_ofMembers, hbundle]

/-- A trust bundle is read back from its base64 text. -/
theorem TppSpec.bundleOfText_encode (b : Bytes) (place : String) :
    bundleOfText (Base64.encode b) place = .ok b := by
  unfold bundleOfText
  split
  · rename_i hempty
    have hdecode := Base64.decode_encode b
    rw [hempty, Base64.decode_empty] at hdecode
    rw [Option.some.inj hdecode]
  · rw [Base64.decode_encode]

theorem TppSpec.ofJson_of_readable {tpp : TppSpec} (h : tpp.Readable) :
    TppSpec.ofJson tpp.toJson = .ok tpp := by
  obtain ⟨hurl, hcredentials, hbundle, hhas, href⟩ := tpp.field_toJson
  have hname : (Json.ofMembers [("name", .str tpp.credentials)]).field "name" =
      .str tpp.credentials := by
    simp [Json.field_ofMembers]
  -- an empty bundle is left out, and another one goes through base64
  have htext : ∀ place, (do
      let text ← optionalText tpp.toJson "caBundle" place
      bundleOfText text place) = .ok tpp.caBundle := by
    intro place
    by_cases hempty : tpp.caBundle = []
    · rw [if_pos hempty] at hbundle
      rw [optionalText_eq_ok_iff.2 (Or.inr ⟨hbundle, rfl⟩), ok_bind, hempty]
      rfl
    · rw [if_neg hempty] at hbundle
      rw [optionalText_eq_ok_iff.2 (Or.inl hbundle), ok_bind, bundleOfText_encode]
  have hrefs : ∀ place, bundleRefOfJson tpp.toJson place = .ok tpp.caBundleRef := by
    intro place
    unfold bundleRefOfJson
    cases hsome : tpp.caBundleRef with
    | none => rw [hhas, hsome]; rfl
    | some ref =>
      rw [hhas, hsome, Option.isSome_some, if_pos rfl, href ref hsome,
        SecretRef.ofJson_of_readable (h.caBundleRef ref hsome)]
      rfl
  refine ofJson_eq_ok_iff.2 ⟨requiredText_eq_ok_iff.2 ⟨hurl, h.url⟩, ?_, ?_,
    bind_eq_ok_iff.1 (htext _), hrefs _⟩
  · rw [hcredentials, Json.isObject_ofMembers]
  · rw [hcredentials]
    exact requiredText_eq_ok_iff.2 ⟨hname, h.credentials⟩

/-! ## The cloud service -/

/-- A description of the cloud service that can be read. -/
structure CloudSpec.Readable (cloud : CloudSpec) : Prop where
  token : cloud.token.Readable

theorem CloudSpec.readable_of_ofJson {v : Json} {cloud : CloudSpec}
    (h : CloudSpec.ofJson v = .ok cloud) : cloud.Readable := by
  unfold CloudSpec.ofJson at h
  dsimp only at h
  obtain ⟨url, -, h⟩ := bind_eq_ok_iff.1 h
  split at h
  · obtain ⟨token, htoken, h⟩ := bind_eq_ok_iff.1 h
    cases h
    exact ⟨SecretRef.readable_of_ofJson htoken⟩
  · cases h

theorem CloudSpec.field_toJson (cloud : CloudSpec) :
    (cloud.toJson.field "url" = if cloud.url = "" then .null else .str cloud.url) ∧
      cloud.toJson.hasField "apiTokenSecretRef" = true ∧
      cloud.toJson.field "apiTokenSecretRef" = cloud.token.toJson := by
  unfold CloudSpec.toJson
  by_cases hurl : cloud.url = "" <;>
    simp [Json.field_ofMembers, Json.hasField_ofMembers, hurl]

theorem CloudSpec.ofJson_of_readable {cloud : CloudSpec} (h : cloud.Readable) :
    CloudSpec.ofJson cloud.toJson = .ok cloud := by
  obtain ⟨hurl, hhas, htoken⟩ := cloud.field_toJson
  unfold CloudSpec.ofJson
  dsimp only
  rw [optionalText_of_field hurl, ok_bind, if_pos hhas, htoken,
    SecretRef.ofJson_of_readable h.token, ok_bind]
  rfl

/-! ## Backends -/

/-- A description of a Venafi backend that can be read. -/
structure VenafiSpec.Readable (venafi : VenafiSpec) : Prop where
  zone : venafi.zone ≠ ""
  tpp : ∀ tpp, venafi.tpp = some tpp → tpp.Readable
  cloud : ∀ cloud, venafi.cloud = some cloud → cloud.Readable

/-- The reader of a backend, with its two parts read as such. -/
theorem VenafiSpec.ofJson_eq (v : Json) : VenafiSpec.ofJson v = (do
    let zone ← requiredText v "zone" "spec.venafi"
    let tpp ← optionalPart TppSpec.ofJson v "tpp" "spec.venafi"
    let cloud ← optionalPart CloudSpec.ofJson v "cloud" "spec.venafi"
    return { zone := zone, tpp := tpp, cloud := cloud }) := by
  unfold VenafiSpec.ofJson optionalPart
  simp only [ite_bind, bind_assoc]

theorem VenafiSpec.readable_of_ofJson {v : Json} {venafi : VenafiSpec}
    (h : VenafiSpec.ofJson v = .ok venafi) : venafi.Readable := by
  rw [VenafiSpec.ofJson_eq] at h
  obtain ⟨zone, hzone, h⟩ := bind_eq_ok_iff.1 h
  obtain ⟨tpp, htpp, h⟩ := bind_eq_ok_iff.1 h
  obtain ⟨cloud, hcloud, h⟩ := bind_eq_ok_iff.1 h
  cases h
  refine ⟨(requiredText_eq_ok_iff.1 hzone).2, fun part hpart => ?_, fun part hpart => ?_⟩
  · obtain ⟨_, hread⟩ := exists_of_optionalPart_eq_ok htpp hpart
    exact TppSpec.readable_of_ofJson hread
  · obtain ⟨_, hread⟩ := exists_of_optionalPart_eq_ok hcloud hpart
    exact CloudSpec.readable_of_ofJson hread

theorem VenafiSpec.field_toJson (venafi : VenafiSpec) :
    venafi.toJson.field "zone" = .str venafi.zone ∧
      venafi.toJson.field "tpp" = (venafi.tpp.map TppSpec.toJson).getD .null ∧
      venafi.toJson.field "cloud" = (venafi.cloud.map CloudSpec.toJson).getD .null := by
  obtain ⟨zone, tpp, cloud⟩ := venafi
  unfold VenafiSpec.toJson
  cases tpp <;> cases cloud <;> simp [Json.field_ofMembers]

theorem VenafiSpec.ofJson_of_readable {venafi : VenafiSpec} (h : venafi.Readable) :
    VenafiSpec.ofJson venafi.toJson = .ok venafi := by
  obtain ⟨hzone, htpp, hcloud⟩ := venafi.field_toJson
  have htppPart : optionalPart TppSpec.ofJson venafi.toJson "tpp" "spec.venafi" =
      .ok venafi.tpp :=
    optionalPart_of_field htpp fun tpp hsome =>
      ⟨⟨_, rfl⟩, TppSpec.ofJson_of_readable (h.tpp tpp hsome)⟩
  have hcloudPart : optionalPart CloudSpec.ofJson venafi.toJson "cloud" "spec.venafi" =
      .ok venafi.cloud :=
    optionalPart_of_field hcloud fun cloud hsome =>
      ⟨⟨_, rfl⟩, CloudSpec.ofJson_of_readable (h.cloud cloud hsome)⟩
  rw [VenafiSpec.ofJson_eq, requiredText_eq_ok_iff.2 ⟨hzone, h.zone⟩, ok_bind, htppPart, ok_bind,
    hcloudPart, ok_bind]
  rfl

/-! ## Conditions -/

/-- A condition that can be read. -/
structure Condition.Readable (c : Condition) : Prop where
  type : c.type ≠ ""
  observedGeneration : c.observedGeneration < Number.signedLimit
  lastTransition : ∀ t, c.lastTransition = some t → ∃ s, s ≠ -1 ∧ t = s * Timestamp.second

theorem Condition.readable_of_ofJson {v : Json} {c : Condition} (h : Condition.ofJson v = .ok c) :
    c.Readable := by
  unfold Condition.ofJson at h
  dsimp only at h
  split at h
  · obtain ⟨type, htype, h⟩ := bind_eq_ok_iff.1 h
    obtain ⟨status, -, h⟩ := bind_eq_ok_iff.1 h
    obtain ⟨reason, -, h⟩ := bind_eq_ok_iff.1 h
    obtain ⟨message, -, h⟩ := bind_eq_ok_iff.1 h
    obtain ⟨generation, hgeneration, h⟩ := bind_eq_ok_iff.1 h
    obtain ⟨time, -, h⟩ := bind_eq_ok_iff.1 h
    obtain ⟨lastTransition, htransition, h⟩ := bind_eq_ok_iff.1 h
    cases h
    refine ⟨(requiredText_eq_ok_iff.1 htype).2, lt_of_optionalInt_eq_ok hgeneration, ?_⟩
    rintro t rfl
    unfold transitionOfText at htransition
    split at htransition
    · cases htransition
    · split at htransition
      · cases htransition
        exact Timestamp.exists_seconds_of_parse ‹_›
      · cases htransition
  · cases h

theorem Condition.field_toJson (c : Condition) :
    c.toJson.field "type" = .str c.type ∧
      c.toJson.field "status" = .str c.status.name ∧
      c.toJson.field "reason" = .str c.reason ∧
      c.toJson.field "message" = .str c.message ∧
      c.toJson.field "lastTransitionTime" =
        (c.lastTransition.map fun t => Json.str (Timestamp.format t)).getD .null ∧
      c.toJson.field "observedGeneration" =
        if c.observedGeneration = 0 then .null else .int c.observedGeneration := by
  obtain ⟨type, status, reason, message, lastTransition, observedGeneration⟩ := c
  unfold Condition.toJson
  by_cases hgeneration : observedGeneration = 0 <;> cases lastTransition <;>
    simp [Json.field_ofMembers, hgeneration]

/-- A time on the clock that was read is read back from its text. -/
theorem Condition.transitionOfText_format {t : Instant} (hclock : Timestamp.OnClock t)
    (hread : ∃ s, s ≠ -1 ∧ t = s * Timestamp.second) (place : String) :
    transitionOfText (Timestamp.format t) place = .ok (some t) := by
  obtain ⟨s, hs, rfl⟩ := hread
  have hwhole := Timestamp.wholeSeconds_mul_second s
  have hparse := Timestamp.parse_format hclock (hwhole.symm ▸ hs)
  rw [hwhole] at hparse
  rw [transitionOfText, if_neg (Timestamp.format_ne_empty _), hparse]

/-- What is read of the text of a time, or of the absence of one. -/
def Condition.transitionAgain : Option Instant → Except Failure (Option Instant)
  | none => .ok none
  | some t => transitionOfText (Timestamp.format t) "status.conditions[]"

/-- A condition is read back but for its time, which goes through its text. -/
theorem Condition.ofJson_toJson_eq {c : Condition} (htype : c.type ≠ "")
    (hgeneration : c.observedGeneration < Number.signedLimit) :
    Condition.ofJson c.toJson =
      (transitionAgain c.lastTransition).map fun since => { c with lastTransition := since } := by
  obtain ⟨hkind, hstatus, hreason, hmessage, htime, hnumber⟩ := c.field_toJson
  have hobject : c.toJson.isObject = true := rfl
  unfold Condition.ofJson
  dsimp only
  rw [if_pos hobject, requiredText_eq_ok_iff.2 ⟨hkind, htype⟩, ok_bind,
    optionalText_eq_ok_iff.2 (Or.inl hstatus), ok_bind,
    optionalText_eq_ok_iff.2 (Or.inl hreason), ok_bind,
    optionalText_eq_ok_iff.2 (Or.inl hmessage), ok_bind,
    optionalInt_of_field hnumber hgeneration, ok_bind, ConditionStatus.ofName?_name]
  cases hsome : c.lastTransition with
  | none =>
    -- a time that is not set is left out, and reads as the empty text
    rw [hsome] at htime
    rw [optionalText_eq_ok_iff.2 (Or.inr ⟨htime, rfl⟩), ok_bind]
    rfl
  | some t =>
    rw [hsome] at htime
    rw [optionalText_eq_ok_iff.2 (Or.inl htime), ok_bind, transitionAgain]
    cases transitionOfText (Timestamp.format t) "status.conditions[]" <;> rfl

theorem Condition.ofJson_of_readable {c : Condition} (h : c.Readable)
    (hclock : ∀ t, c.lastTransition = some t → Timestamp.OnClock t) :
    Condition.ofJson c.toJson = .ok c := by
  have hagain : transitionAgain c.lastTransition = .ok c.lastTransition := by
    cases hsome : c.lastTransition with
    | none => rfl
    | some t =>
      rw [transitionAgain]
      exact transitionOfText_format (hclock t hsome) (h.lastTransition t hsome) _
  rw [ofJson_toJson_eq h.type h.observedGeneration, hagain]
  rfl

/-! ## Issuers -/

/-- An issuer that can be read. -/
structure Issuer.Readable (issuer : Issuer) : Prop where
  name : issuer.name ≠ ""
  ns : issuer.kind = .namespaced → issuer.ns ≠ ""
  generation : issuer.generation < Number.signedLimit
  venafi : ∀ venafi, issuer.venafi = some venafi → venafi.Readable
  conditions : ∀ c ∈ issuer.conditions, c.Readable

/-- The reader of the description of a backend is that of a part which may be absent. -/
theorem Issuer.venafiOfJson_eq (v : Json) : venafiOfJson v = (do
    let spec ← optionalObject v "spec" "manifest"
    optionalPart VenafiSpec.ofJson spec "venafi" "spec") := rfl

theorem Issuer.readable_conditions {v : Json} {cs : List Condition}
    (h : conditionsOfJson v = .ok cs) : ∀ c ∈ cs, c.Readable := by
  obtain ⟨status, -, h⟩ := bind_eq_ok_iff.1 h
  unfold Condition.listOfJson at h
  split at h
  · cases h
    exact fun c hc => absurd hc List.not_mem_nil
  · intro c hc
    obtain ⟨v', -, hread⟩ := exists_of_mapM_eq_ok h c hc
    exact Condition.readable_of_ofJson hread
  · cases h

theorem Issuer.readable_of_ofJson {v : Json} {issuer : Issuer}
    (h : Issuer.ofJson v = .ok issuer) : issuer.Readable := by
  have hread := ofJson_eq_ok_iff.1 h
  refine ⟨(requiredText_eq_ok_iff.1 hread.name).2,
    fun hkind hempty => hread.placed ⟨hkind, hempty⟩, lt_of_optionalInt_eq_ok hread.generation,
    fun part hpart => ?_, readable_conditions hread.conditions⟩
  have hvenafi := hread.venafi
  rw [venafiOfJson_eq] at hvenafi
  obtain ⟨spec, -, hvenafi⟩ := bind_eq_ok_iff.1 hvenafi
  obtain ⟨_, hpart⟩ := exists_of_optionalPart_eq_ok hvenafi hpart
  exact VenafiSpec.readable_of_ofJson hpart

/-- The metadata of a manifest that was written. -/
def Issuer.metadata (issuer : Issuer) : Json :=
  Json.ofMembers ([("name", .str issuer.name)] ++ textMember "namespace" issuer.ns ++
    (if issuer.generation = 0 then [] else [("generation", .int issuer.generation)]))

theorem Issuer.field_metadata (issuer : Issuer) :
    issuer.metadata.field "name" = .str issuer.name ∧
      (issuer.metadata.field "namespace" = if issuer.ns = "" then .null else .str issuer.ns) ∧
      issuer.metadata.field "generation" =
        if issuer.generation = 0 then .null else .int issuer.generation := by
  unfold Issuer.metadata
  by_cases hns : issuer.ns = "" <;> by_cases hgeneration : issuer.generation = 0 <;>
    simp [Json.field_ofMembers, hns, hgeneration]

theorem Issuer.field_toJson (issuer : Issuer) :
    issuer.toJson.field "kind" = .str issuer.kind.name ∧
      issuer.toJson.field "metadata" = issuer.metadata ∧
      issuer.toJson.field "spec" = (issuer.venafi.map fun venafi =>
        Json.ofMembers [("venafi", venafi.toJson)]).getD .null ∧
      issuer.toJson.field "status" = Condition.statusToJson issuer.conditions := by
  obtain ⟨kind, name, ns, generation, venafi, conditions⟩ := issuer
  unfold Issuer.toJson Issuer.metadata
  cases venafi <;> simp [Json.field_ofMembers]

theorem Issuer.kindOfJson_toJson (issuer : Issuer) :
    kindOfJson issuer.toJson = .ok issuer.kind := by
  have hne : issuer.kind.name ≠ "" := by cases issuer.kind <;> decide
  unfold kindOfJson
  rw [requiredText_eq_ok_iff.2 ⟨issuer.field_toJson.1, hne⟩, ok_bind, IssuerKind.ofName?_name]
  rfl

theorem Issuer.venafiOfJson_toJson {issuer : Issuer}
    (h : ∀ venafi, issuer.venafi = some venafi → venafi.Readable) :
    venafiOfJson issuer.toJson = .ok issuer.venafi := by
  obtain ⟨-, -, hspec, -⟩ := issuer.field_toJson
  rw [venafiOfJson_eq]
  cases hvenafi : issuer.venafi with
  | none =>
    rw [hvenafi] at hspec
    rw [optionalObject_of_null hspec]
    rfl
  | some venafi =>
    rw [hvenafi] at hspec
    rw [optionalObject_of_ofMembers hspec, ok_bind]
    have hfield : (Json.ofMembers [("venafi", venafi.toJson)]).field "venafi" =
        ((some venafi).map VenafiSpec.toJson).getD .null := by
      simp [Json.field_ofMembers]
    refine optionalPart_of_field hfield fun part hpart => ⟨⟨_, rfl⟩, ?_⟩
    rw [← hvenafi] at hpart
    exact VenafiSpec.ofJson_of_readable (h part hpart)

/-- The conditions of a manifest that was written are read one by one. -/
theorem Issuer.conditionsOfJson_toJson_eq (issuer : Issuer) :
    conditionsOfJson issuer.toJson =
      (issuer.conditions.map Condition.toJson).mapM Condition.ofJson := by
  obtain ⟨-, -, -, hstatus⟩ := issuer.field_toJson
  have hfield : (Condition.statusToJson issuer.conditions).field "conditions" =
      .arr (issuer.conditions.map Condition.toJson) := by
    simp [Condition.statusToJson, Json.field_ofMembers]
  unfold conditionsOfJson
  rw [optionalObject_of_ofMembers hstatus, ok_bind]
  show Condition.listOfJson ((Condition.statusToJson issuer.conditions).field "conditions") = _
  rw [hfield]
  rfl

theorem Issuer.conditionsOfJson_toJson {issuer : Issuer}
    (h : ∀ c ∈ issuer.conditions, c.Readable)
    (hclock : ∀ c ∈ issuer.conditions, ∀ t, c.lastTransition = some t → Timestamp.OnClock t) :
    conditionsOfJson issuer.toJson = .ok issuer.conditions := by
  rw [conditionsOfJson_toJson_eq]
  exact mapM_map_eq_ok fun c hc => Condition.ofJson_of_readable (h c hc) (hclock c hc)

theorem Issuer.ofJson_of_readable {issuer : Issuer} (h : issuer.Readable)
    (hclock : ∀ c ∈ issuer.conditions, ∀ t, c.lastTransition = some t → Timestamp.OnClock t) :
    Issuer.ofJson issuer.toJson = .ok issuer := by
  obtain ⟨-, hmetadata, -, -⟩ := issuer.field_toJson
  obtain ⟨hname, hns, hgeneration⟩ := issuer.field_metadata
  refine ofJson_eq_ok_iff.2 ⟨rfl, issuer.kindOfJson_toJson, ?_, ?_, ?_, ?_,
    fun hboth => h.ns hboth.1 hboth.2, venafiOfJson_toJson h.venafi,
    conditionsOfJson_toJson h.conditions hclock⟩
  · rw [hmetadata]
    rfl
  · rw [hmetadata]
    exact requiredText_eq_ok_iff.2 ⟨hname, h.name⟩
  · rw [hmetadata]
    exact optionalText_of_field hns
  · rw [hmetadata]
    exact optionalInt_of_field hgeneration h.generation

/-- **An issuer that was read is read back.**  Whatever the manifest it was read from
looked like, reading what is written of the issuer gives the same issuer, part for
part and condition for condition, provided that its times are on the clock. -/
theorem Issuer.ofJson_toJson_of_ofJson {v : Json} {issuer : Issuer}
    (h : Issuer.ofJson v = .ok issuer)
    (hclock : ∀ c ∈ issuer.conditions, ∀ t, c.lastTransition = some t → Timestamp.OnClock t) :
    Issuer.ofJson issuer.toJson = .ok issuer :=
  Issuer.ofJson_of_readable (Issuer.readable_of_ofJson h) hclock

/-! ## A manifest in lax forms -/

/-- A manifest that is read in its laxer forms: a generation written as a decimal
fraction, base64 text with `=` in the middle, a status that is not known, a day that its
month does not have, the second 60, and members that are null. -/
def Issuer.laxManifest : Json :=
  .obj [
    ("kind", .str "Issuer"),
    ("metadata", .obj [
      ("generation", .num (.rounded 3 1)),
      ("name", .str "tpp-issuer"),
      ("namespace", .str "team-a")]),
    ("spec", .obj [
      ("venafi", .obj [
        ("cloud", .null),
        ("tpp", .obj [
          ("caBundle", .str "QQ==QQ=="),
          ("caBundleSecretRef", .obj [("key", .str ""), ("name", .str "ca")]),
          ("credentialsRef", .obj [("name", .str "credentials")]),
          ("url", .str "tpp.example.com")]),
        ("zone", .str "Default")])]),
    ("status", .obj [
      ("conditions", .arr [
        .obj [
          ("lastTransitionTime", .str " 2026-02-30t23:59:60.5Z and so on"),
          ("status", .str "maybe"),
          ("type", .str "Ready")],
        .obj [("lastTransitionTime", .null), ("type", .str "Ready")]])])]

/-- The issuer of the manifest in lax forms. -/
def Issuer.laxIssuer : Issuer where
  kind := .namespaced
  name := "tpp-issuer"
  ns := "team-a"
  generation := 6
  venafi := some
    { zone := "Default"
      tpp := some
        { url := "tpp.example.com"
          credentials := "credentials"
          caBundle := [0x41, 0, 0, 0x41]
          caBundleRef := some { name := "ca" } } }
  conditions :=
    [{ type := "Ready", lastTransition := some 1772496000000000000 }, { type := "Ready" }]

theorem Issuer.ofJson_toJson_laxIssuer :
    Issuer.ofJson laxManifest = .ok laxIssuer ∧
      (∀ c ∈ laxIssuer.conditions, ∀ t, c.lastTransition = some t → Timestamp.OnClock t) ∧
      Issuer.ofJson laxIssuer.toJson = .ok laxIssuer := by
  have hread : Issuer.ofJson laxManifest = .ok laxIssuer := by rfl
  have hclock : ∀ c ∈ laxIssuer.conditions, ∀ t, c.lastTransition = some t →
      Timestamp.OnClock t := by
    intro c hc t ht
    simp only [laxIssuer, List.mem_cons, List.not_mem_nil, or_false] at hc
    rcases hc with rfl | rfl
    · cases ht
      unfold Timestamp.OnClock
      decide
    · cases ht
  exact ⟨hread, hclock, Issuer.ofJson_toJson_of_ofJson hread hclock⟩

end IssuerReadiness
