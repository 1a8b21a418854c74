import IssuerReadiness.Proofs.Issuer.RoundTrip
import IssuerReadiness.Secret.Manifest

/-!
# How manifests are refused

Whatever the JSON value, a reader of manifests gives a value or refuses the manifest as a
configuration, with a message.  There is one exception, and it is a fault: a number that
is whole and does not fit 64 bits with a sign passes the check that it is whole, and fails
only where it is converted, in a failure that has no code and does not say where the number
stands.  Where a text is read there is another one, of the same kind: if the reader of JSON
texts gives up, its exception is passed on as it is.

## The argument

A reader is a composition of readers of members, and what all its failures have in
common (`FailsOnly`) it has from its parts.  So each reader is run through once, and the
exception has one source: the reader of whole numbers (`failsOnly_optionalInt`).  It is
called for the generation of an issuer and of its conditions, and for nothing that a secret
has.  In these places an oversized number is never accepted, so the fault is in how it is
refused and no more.

* `Failure.IsConfiguration`: the failure that a refused manifest should be.
* `Issuer.generations`: the places where a whole number is read.
* `Manifest.Refusing`: when a reader refuses as it should, and what it does otherwise.
* `Manifest.RefusingText`: the same for a text, in each outcome of its reading.
* `Manifest.refusing_readers`: how issuers and secrets are refused.
-/

namespace IssuerReadiness

open Manifest

/-! ## Failures of manifests -/

/-- The manifest, or another setting, is at fault. -/
def Failure.IsConfiguration (f : Failure) : Prop :=
  ∃ message, f = .configuration message

/-- The number is whole and does not fit 64 bits with a sign. -/
def Number.Oversized (n : Number) : Prop :=
  ∃ i, n.integral? = some i ∧ Number.signedLimit ≤ i

/-- The number is 2 ^ 63, and rounded.  It is oversized; but the limit is rounded, too,
where it is compared with it, and so it is converted, and what it is converted to is not
defined. -/
def Number.Borderline (n : Number) : Prop :=
  n.isExact = false ∧ n.integral? = some Number.signedLimit

/-- The failure of the conversion of one of the values `vs`, which is an oversized
number. -/
def Failure.IsConversionOf (vs : List Json) (f : Failure) : Prop :=
  ∃ n, .num n ∈ vs ∧ n.Oversized ∧ f = .numberRange n.isExact

/-- The failure of a reader that converts the values `vs` and nothing else. -/
def Failure.OfReader (vs : List Json) (f : Failure) : Prop :=
  f.IsConfiguration ∨ f.IsConversionOf vs

/-- Without anything to convert there is no exception. -/
theorem Failure.ofReader_nil {f : Failure} : f.OfReader [] ↔ f.IsConfiguration := by
  constructor
  · rintro (h | ⟨n, hn, -⟩)
    · exact h
    · cases hn
  · exact Or.inl

namespace Manifest

variable {vs : List Json} {obj : Json} {key place : String}

/-- A refusal is a failure of any reader. -/
theorem failsOnly_refuse {α : Type} (message : String) :
    FailsOnly (Failure.OfReader vs) (refuse message : Except Failure α) :=
  .error (Or.inl ⟨message, rfl⟩)

theorem failsOnly_requiredText :
    FailsOnly (Failure.OfReader vs) (requiredText obj key place) := by
  unfold requiredText
  split
  · exact .ite (failsOnly_refuse _) (.ok _)
  · exact failsOnly_refuse _

theorem failsOnly_optionalText :
    FailsOnly (Failure.OfReader vs) (optionalText obj key place) := by
  unfold optionalText
  split
  · exact .ok _
  · exact .ok _
  · exact failsOnly_refuse _

theorem failsOnly_optionalObject :
    FailsOnly (Failure.OfReader vs) (optionalObject obj key place) := by
  unfold optionalObject
  split
  · exact .ok _
  · exact .ok _
  · exact failsOnly_refuse _

/-- What is read as an object or `null` is read as itself. -/
theorem eq_of_optionalObject_eq_ok {v : Json} (h : optionalObject obj key place = .ok v) :
    v = obj.field key :=
  (optionalObject_eq_ok_iff.1 h).1.symm

theorem failsOnly_optionalPart {α : Type} {read : Json → Except Failure α}
    (h : ∀ v, FailsOnly (Failure.OfReader vs) (read v)) :
    FailsOnly (Failure.OfReader vs) (optionalPart read obj key place) :=
  failsOnly_optionalObject.bind fun v => .ite ((h v).map _) (.ok _)

/-- The only source of the exception: that a number is whole is checked, that it fits is
not. -/
theorem failsOnly_optionalInt (h : obj.field key ∈ vs) :
    FailsOnly (Failure.OfReader vs) (optionalInt obj key place) := by
  unfold optionalInt
  split
  · exact .ok _
  · next n hn =>
    split
    · next i hi =>
      by_cases hfits : i < Number.signedLimit
      · rw [if_pos hfits]
        exact .ok _
      · rw [if_neg hfits]
        exact .error (Or.inr ⟨n, hn ▸ h, ⟨i, hi, Int.not_lt.1 hfits⟩, rfl⟩)
    · exact failsOnly_refuse _
  · exact failsOnly_refuse _

end Manifest

/-! ## Issuers -/

section Issuers

variable {vs : List Json}

theorem SecretRef.failsOnly_ofJson (v : Json) (place : String) :
    FailsOnly (Failure.OfReader vs) (SecretRef.ofJson v place) := by
  unfold SecretRef.ofJson
  refine .ite ?_ (failsOnly_refuse _)
  exact failsOnly_requiredText.bind fun _ => failsOnly_optionalText.bind fun _ => .ok _

theorem TppSpec.failsOnly_bundleOfText (s place : String) :
    FailsOnly (Failure.OfReader vs) (TppSpec.bundleOfText s place) := by
  unfold TppSpec.bundleOfText
  refine .ite (.ok _) ?_
  split
  · exact .ok _
  · exact failsOnly_refuse _

theorem TppSpec.failsOnly_ofJson (v : Json) :
    FailsOnly (Failure.OfReader vs) (TppSpec.ofJson v) := by
  unfold TppSpec.ofJson
  refine failsOnly_requiredText.bind fun _ => .ite ?_ (failsOnly_refuse _)
  refine failsOnly_requiredText.bind fun _ => failsOnly_optionalText.bind fun _ =>
    (failsOnly_bundleOfText _ _).bind fun _ => .bind ?_ fun _ => .ok _
  exact .ite ((SecretRef.failsOnly_ofJson _ _).map _) (.ok _)

theorem CloudSpec.failsOnly_ofJson (v : Json) :
    FailsOnly (Failure.OfReader vs) (CloudSpec.ofJson v) := by
  unfold CloudSpec.ofJson
  refine failsOnly_optionalText.bind fun _ => .ite ?_ (failsOnly_refuse _)
  exact (SecretRef.failsOnly_ofJson _ _).bind fun _ => .ok _

theorem VenafiSpec.failsOnly_ofJson (v : Json) :
    FailsOnly (Failure.OfReader vs) (VenafiSpec.ofJson v) := by
  rw [VenafiSpec.ofJson_eq]
  exact failsOnly_requiredText.bind fun _ =>
    (failsOnly_optionalPart TppSpec.failsOnly_ofJson).bind fun _ =>
      (failsOnly_optionalPart CloudSpec.failsOnly_ofJson).bind fun _ => .ok _

theorem Condition.failsOnly_transitionOfText (s place : String) :
    FailsOnly (Failure.OfReader vs) (Condition.transitionOfText s place) := by
  unfold Condition.transitionOfText
  refine .ite (.ok _) ?_
  split
  · exact .ok _
  · exact failsOnly_refuse _

/-- What is converted of a condition is the generation that it was made of. -/
theorem Condition.failsOnly_ofJson {v : Json} (h : v.field "observedGeneration" ∈ vs) :
    FailsOnly (Failure.OfReader vs) (Condition.ofJson v) := by
  unfold Condition.ofJson
  refine .ite ?_ (failsOnly_refuse _)
  refine failsOnly_requiredText.bind fun _ => failsOnly_optionalText.bind fun _ =>
    failsOnly_optionalText.bind fun _ => failsOnly_optionalText.bind fun _ => ?_
  exact (failsOnly_optionalInt h).bind fun _ => failsOnly_optionalText.bind fun _ =>
    (failsOnly_transitionOfText _ _).bind fun _ => .ok _

theorem Condition.failsOnly_listOfJson {v : Json}
    (h : ∀ c ∈ v.items, c.field "observedGeneration" ∈ vs) :
    FailsOnly (Failure.OfReader vs) (Condition.listOfJson v) := by
  unfold Condition.listOfJson
  split
  · exact .ok _
  · exact .mapM fun c hc => Condition.failsOnly_ofJson (h c hc)
  · exact failsOnly_refuse _

namespace Issuer

/-- What an issuer's manifest has in the places where a whole number is read:
`metadata.generation`, and `observedGeneration` in each of `status.conditions`. -/
def generations (v : Json) : List Json :=
  (v.field "metadata").field "generation" ::
    ((v.field "status").field "conditions").items.map (·.field "observedGeneration")

theorem failsOnly_kindOfJson (v : Json) :
    FailsOnly (Failure.OfReader vs) (kindOfJson v) := by
  unfold kindOfJson
  refine failsOnly_requiredText.bind fun _ => ?_
  split
  · exact .ok _
  · exact failsOnly_refuse _

theorem failsOnly_venafiOfJson (v : Json) :
    FailsOnly (Failure.OfReader vs) (venafiOfJson v) := by
  unfold venafiOfJson
  refine failsOnly_optionalObject.bind fun _ => failsOnly_optionalObject.bind fun _ => ?_
  exact .ite ((VenafiSpec.failsOnly_ofJson _).map _) (.ok _)

theorem failsOnly_conditionsOfJson (v : Json) :
    FailsOnly (Failure.OfReader (generations v)) (conditionsOfJson v) := by
  unfold conditionsOfJson
  refine failsOnly_optionalObject.bind_of_ok fun status hstatus => ?_
  rw [eq_of_optionalObject_eq_ok hstatus]
  exact Condition.failsOnly_listOfJson fun c hc => List.mem_cons_of_mem _ (List.mem_map_of_mem hc)

/-- An issuer is refused as a configuration, or else at an oversized generation. -/
theorem failsOnly_ofJson (v : Json) :
    FailsOnly (Failure.OfReader (generations v)) (ofJson v) := by
  unfold ofJson
  refine .ite ?_ (failsOnly_refuse _)
  refine (failsOnly_kindOfJson v).bind fun _ => .ite ?_ (failsOnly_refuse _)
  refine failsOnly_requiredText.bind fun _ => failsOnly_optionalText.bind fun _ => ?_
  refine (failsOnly_optionalInt List.mem_cons_self).bind fun _ => ?_
  refine .ite (failsOnly_refuse _) ?_
  exact (failsOnly_venafiOfJson v).bind fun _ => (failsOnly_conditionsOfJson v).bind fun _ => .ok _

end Issuer

/-! ## Oversized numbers are not accepted -/

theorem Manifest.not_oversized_of_optionalInt {obj : Json} {key place : String} {i : Int}
    (h : optionalInt obj key place = .ok i) {n : Number} (hn : obj.field key = .num n) :
    ¬ n.Oversized := by
  rintro ⟨k, hk, hlimit⟩
  unfold optionalInt at h
  rw [hn] at h
  dsimp only at h
  rw [hk] at h
  dsimp only at h
  rw [if_neg (Int.not_lt.2 hlimit)] at h
  cases h

theorem Condition.not_oversized_of_ofJson {v : Json} {c : Condition}
    (h : Condition.ofJson v = .ok c) {n : Number}
    (hn : v.field "observedGeneration" = .num n) : ¬ n.Oversized := by
  unfold Condition.ofJson at h
  dsimp only at h
  split at h
  · obtain ⟨type, -, h⟩ := bind_eq_ok_iff.1 h
    obtain ⟨status, -, h⟩ := bind_eq_ok_iff.1 h
    obtain ⟨reason, -, h⟩ := bind_eq_ok_iff.1 h
    obtain ⟨message, -, h⟩ := bind_eq_ok_iff.1 h
    obtain ⟨generation, hgeneration, -⟩ := bind_eq_ok_iff.1 h
    exact not_oversized_of_optionalInt hgeneration hn
  · cases h

namespace Issuer

theorem not_oversized_of_conditionsOfJson {v : Json} {cs : List Condition}
    (h : conditionsOfJson v = .ok cs) {n : Number}
    (hn : .num n ∈ ((v.field "status").field "conditions").items.map
      (·.field "observedGeneration")) : ¬ n.Oversized := by
  obtain ⟨c, hc, hn⟩ := List.mem_map.1 hn
  obtain ⟨status, hstatus, h⟩ := bind_eq_ok_iff.1 h
  rw [eq_of_optionalObject_eq_ok hstatus] at h
  generalize (v.field "status").field "conditions" = conditions at h hc
  cases conditions with
  | arr items =>
    obtain ⟨c', hread⟩ := exists_eq_ok_of_mapM_eq_ok h c hc
    exact Condition.not_oversized_of_ofJson hread hn
  | _ => cases hc

theorem not_oversized_of_ofJson {v : Json} {issuer : Issuer} (h : ofJson v = .ok issuer)
    {n : Number} (hn : .num n ∈ generations v) : ¬ n.Oversized := by
  have hread := ofJson_eq_ok_iff.1 h
  rcases List.mem_cons.1 hn with hn | hn
  · exact not_oversized_of_optionalInt hread.generation hn.symm
  · exact not_oversized_of_conditionsOfJson hread.conditions hn

end Issuer

end Issuers

/-! ## Secrets -/

namespace Secret

variable {vs : List Json}

theorem failsOnly_kindOfJson (v : Json) (place : String) :
    FailsOnly (Failure.OfReader vs) (kindOfJson v place) := by
  unfold kindOfJson
  split
  · exact .ok _
  · exact .ok _
  · exact failsOnly_refuse _

theorem failsOnly_addEncoded (place : String) (values : Keyed Bytes) (ms : List (String × Json)) :
    FailsOnly (Failure.OfReader vs) (addEncoded place values ms) := by
  induction values, ms using addEncoded.induct with
  | case1 values => exact .ok values
  | case2 values key s rest b hb ih =>
    rw [addEncoded, hb]
    exact ih
  | case3 values key s rest hb =>
    rw [addEncoded, hb]
    exact failsOnly_refuse _
  | case4 values key v rest hv =>
    rw [addEncoded]
    · exact failsOnly_refuse _
    · exact hv

theorem failsOnly_addPlain (place : String) (values : Keyed Bytes) (ms : List (String × Json)) :
    FailsOnly (Failure.OfReader vs) (addPlain place values ms) := by
  induction values, ms using addPlain.induct with
  | case1 values => exact .ok values
  | case2 values key s rest ih =>
    rw [addPlain]
    exact ih
  | case3 values key v rest hv =>
    rw [addPlain]
    · exact failsOnly_refuse _
    · exact hv

theorem failsOnly_namespaceOfJson (metadata : Json) (name defaultNamespace : String) :
    FailsOnly (Failure.OfReader vs) (namespaceOfJson metadata name defaultNamespace) := by
  unfold namespaceOfJson
  split
  · exact .ok _
  · exact .ok _
  · exact failsOnly_refuse _

theorem failsOnly_nameOfJson (metadata : Json) :
    FailsOnly (Failure.OfReader vs) (nameOfJson metadata) := by
  unfold nameOfJson
  split
  · exact .ite (failsOnly_refuse _) (.ok _)
  · exact failsOnly_refuse _

theorem failsOnly_ofJson (defaultNamespace : String) (v : Json) :
    FailsOnly (Failure.OfReader vs) (ofJson defaultNamespace v) := by
  unfold ofJson
  refine .ite ?_ (failsOnly_refuse _)
  refine (failsOnly_kindOfJson _ _).bind fun _ => .ite (failsOnly_refuse _) ?_
  refine (failsOnly_nameOfJson _).bind fun _ => (failsOnly_namespaceOfJson _ _ _).bind fun _ => ?_
  refine failsOnly_optionalObject.bind fun _ => (failsOnly_addEncoded _ _ _).bind fun _ => ?_
  exact failsOnly_optionalObject.bind fun _ => (failsOnly_addPlain _ _ _).bind fun _ => .ok _

theorem failsOnly_itemsOfJson (v : Json) : FailsOnly (Failure.OfReader vs) (itemsOfJson v) := by
  unfold itemsOfJson
  split
  · exact .ok _
  · exact .ok _
  · exact failsOnly_refuse _

theorem failsOnly_listOfJson (defaultNamespace : String) (v : Json) :
    FailsOnly (Failure.OfReader vs) (listOfJson defaultNamespace v) := by
  have hitems : ∀ items : List Json, FailsOnly (Failure.OfReader vs)
      (items.mapM (ofJson defaultNamespace)) :=
    fun _ => .mapM fun item _ => failsOnly_ofJson defaultNamespace item
  unfold listOfJson
  extract_lets rest
  have hrest : ∀ kind, FailsOnly (Failure.OfReader vs) (rest kind) := by
    intro kind
    refine .ite ((failsOnly_itemsOfJson v).bind hitems) ?_
    split
    · exact hitems _
    · exact (failsOnly_ofJson defaultNamespace _).bind fun _ => .ok _
  exact .ite ((failsOnly_kindOfJson v _).bind hrest) (hrest "")

end Secret

/-! ## The readers of manifests -/

namespace Manifest

/-- How a reader refuses that converts the values `vs`.  If none of them is oversized, then
all its failures are of the configuration.  If one is, then it fails, and its failure is
of the configuration or of the conversion of such a one; unless there is a number among
them whose conversion is not defined. -/
structure Refusing {α : Type} (vs : List Json) (x : Except Failure α) : Prop where
  proper : (∀ n, .num n ∈ vs → ¬ n.Oversized) → FailsOnly Failure.IsConfiguration x
  failures : (∀ n, .num n ∈ vs → ¬ n.Borderline) → FailsOnly (Failure.OfReader vs) x
  oversized : (∀ n, .num n ∈ vs → ¬ n.Borderline) →
    ∀ a, x = .ok a → ∀ n, .num n ∈ vs → ¬ n.Oversized

theorem Refusing.of_failsOnly {α : Type} {vs : List Json} {x : Except Failure α}
    (h : FailsOnly (Failure.OfReader vs) x)
    (hoversized : ∀ a, x = .ok a → ∀ n, .num n ∈ vs → ¬ n.Oversized) : Refusing vs x where
  proper := by
    intro hfit
    refine h.mono fun f hf => ?_
    rcases hf with hconfiguration | ⟨n, hn, hover, -⟩
    · exact hconfiguration
    · exact absurd hover (hfit n hn)
  failures _ := h
  oversized _ := hoversized

theorem refusing_ofJson (v : Json) : Refusing (Issuer.generations v) (Issuer.ofJson v) :=
  .of_failsOnly (Issuer.failsOnly_ofJson v) fun _ hissuer _ hn =>
    Issuer.not_oversized_of_ofJson hissuer hn

/-- Nothing of a secret is converted. -/
theorem refusing_listOfJson (defaultNamespace : String) (v : Json) :
    Refusing [] (Secret.listOfJson defaultNamespace v) :=
  .of_failsOnly (Secret.failsOnly_listOfJson defaultNamespace v) fun _ _ _ hn =>
    absurd hn List.not_mem_nil

theorem failsOnly_listOfJson (defaultNamespace : String) (v : Json) :
    FailsOnly Failure.IsConfiguration (Secret.listOfJson defaultNamespace v) :=
  (Secret.failsOnly_listOfJson defaultNamespace v).mono fun _ => Failure.ofReader_nil.1

section Texts

variable [Json.Library] {α : Type}

/-- How a reader of texts refuses: a text that is read as a value as the value is refused,
of which it converts the values `vs v`; a text that is refused as a configuration, with the
diagnosis; and a text on which the reader of JSON texts gives up with its exception. -/
structure RefusingText (subject : String) (vs : Json → List Json) (b : Bytes)
    (x : Except Failure α) : Prop where
  value : ∀ v notes, Json.read b = .value v notes → Refusing (vs v) x
  refused : ∀ diagnosis, Json.read b = .refused diagnosis →
    x = .error (.configuration ("invalid " ++ subject ++ " JSON: " ++ diagnosis))
  thrown : ∀ text, Json.read b = .thrown text → x = .error (.plain text)

/-- A text is refused as its value is. -/
theorem RefusingText.of_refusing {vs : Json → List Json} {f : Json → Except Failure α}
    (h : ∀ v, Refusing (vs v) (f v)) (subject : String) (b : Bytes) :
    RefusingText subject vs b (jsonOfBytes subject b >>= f) where
  value v notes hread := by
    rw [jsonOfBytes, hread]
    exact h v
  refused diagnosis hread := by
    rw [jsonOfBytes, hread]
    rfl
  thrown text hread := by
    rw [jsonOfBytes, hread]
    rfl

/-- If the reader of JSON texts does not give up, then a text without a number to convert is
refused as a configuration only. -/
theorem RefusingText.isConfiguration {subject : String} {vs : Json → List Json} {b : Bytes}
    {x : Except Failure α} (h : RefusingText subject vs b x)
    (hanswers : ∀ text, Json.read b ≠ .thrown text)
    (hfit : ∀ v notes, Json.read b = .value v notes → ∀ n, .num n ∈ vs v → ¬ n.Oversized) :
    FailsOnly Failure.IsConfiguration x := by
  cases hread : Json.read b with
  | value v notes => exact (h.value v notes hread).proper (hfit v notes hread)
  | refused diagnosis =>
    rw [h.refused diagnosis hread]
    exact .error ⟨_, rfl⟩
  | thrown text => exact absurd hread (hanswers text)

/-- **How manifests are refused.**  A reader of issuers fails only with a failure of the
configuration if the numbers that stand where a generation is read fit; with an oversized
one among them it fails, perhaps in its conversion.  A reader of secrets fails only with a
failure of the configuration.  A text is refused as the value that it is read as, and one
that cannot be read is refused as a configuration, too, with the diagnosis that it got;
only where the reader of JSON texts gives up is its exception passed on, which by its
documentation happens to texts with as many brackets as its limit at least. -/
theorem refusing_readers (v : Json) (b : Bytes) (defaultNamespace : String) :
    Refusing (Issuer.generations v) (Issuer.ofJson v) ∧
      FailsOnly Failure.IsConfiguration (Secret.listOfJson defaultNamespace v) ∧
      RefusingText "issuer" Issuer.generations b (Issuer.ofBytes b) ∧
      RefusingText "secrets" (fun _ => []) b (Secret.listOfBytes defaultNamespace b) ∧
      (Json.ThrowsOnlyDeep → Json.openings b < Json.stackLimit →
        FailsOnly Failure.IsConfiguration (Secret.listOfBytes defaultNamespace b) ∧
          ((∀ v notes, Json.read b = .value v notes →
              ∀ n, .num n ∈ Issuer.generations v → ¬ n.Oversized) →
            FailsOnly Failure.IsConfiguration (Issuer.ofBytes b))) := by
  have hissuer : RefusingText "issuer" Issuer.generations b (Issuer.ofBytes b) :=
    .of_refusing refusing_ofJson "issuer" b
  have hsecrets : RefusingText "secrets" (fun _ => []) b (Secret.listOfBytes defaultNamespace b) :=
    .of_refusing (refusing_listOfJson defaultNamespace) "secrets" b
  refine ⟨refusing_ofJson v, failsOnly_listOfJson defaultNamespace v, hissuer, hsecrets,
    fun hdeep hflat => ?_⟩
  have hanswers : ∀ text, Json.read b ≠ .thrown text :=
    fun text hread => absurd (hdeep b text hread) (Nat.not_le_of_lt hflat)
  exact ⟨hsecrets.isConfiguration hanswers fun _ _ _ _ hn => absurd hn List.not_mem_nil,
    hissuer.isConfiguration hanswers⟩

end Texts

end Manifest

/-- The manifest of an issuer whose generation needs all 64 bits. -/
def oversizedIssuer : Json :=
  Json.ofMembers [("kind", .str "ClusterIssuer"),
    ("metadata", Json.ofMembers [("name", .str "a"), ("generation", .int Number.signedLimit)])]

/-- The exception does occur, and it has no code to test. -/
theorem Issuer.ofJson_oversizedIssuer :
    Issuer.ofJson oversizedIssuer = .error (.numberRange true) ∧
      (Failure.numberRange true).code? = none ∧
      ¬ FailsOnly Failure.IsConfiguration (Issuer.ofJson oversizedIssuer) := by
  have hfails : Issuer.ofJson oversizedIssuer = .error (.numberRange true) := rfl
  refine ⟨hfails, rfl, fun honly => ?_⟩
  obtain ⟨message, hmessage⟩ := honly _ hfails
  cases hmessage

end IssuerReadiness
