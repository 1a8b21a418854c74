import IssuerReadiness.Connection
import IssuerReadiness.Proofs.Failure

/-!
# Where a connection comes from

A connection is resolved from an issuer and from the secrets of one namespace.  Of the
secrets it depends on what the store answers for that namespace and on nothing else
(`resolve_congr`), and of the issuer on the description of its backend.

The description of a backend is looked at part by part, and what the parts say together is
one relation (`Connects`): an issuer uses a TPP or the cloud service (`UsesTpp`,
`UsesCloud`), a TPP asks for a trust bundle (`BundleOf`), and the secrets that are referred
to hold the rest.

* `resolve_cases`, `connects_of_resolve`: what is resolved is what the issuer describes.
* `Resolved`, `resolved_of_resolve`: the service and the base URL of a connection.
-/

namespace IssuerReadiness

/-- The service that a description of a backend leads to, and its base URL as it is
spelled there. -/
def VenafiSpec.address? (venafi : VenafiSpec) : Option (Connector × String) :=
  match venafi.tpp, venafi.cloud with
  | some tpp, _ => some (.tpp, tpp.url)
  | none, some cloud =>
      some (.cloud, if cloud.url = "" then "https://api.venafi.cloud/" else cloud.url)
  | none, none => none

namespace Connection

variable {issuer : Issuer} {secrets secrets' : SecretStore} {ns userAgent : String}
  {k : Connection} {venafi : VenafiSpec} {tpp : TppSpec} {cloud : CloudSpec}

/-! ## Secrets -/

theorem requireSecret_congr (h : ∀ name, secrets.get? ns name = secrets'.get? ns name)
    (name : String) : requireSecret secrets ns name = requireSecret secrets' ns name := by
  rw [requireSecret, h, requireSecret]

theorem bundleOf_congr (h : ∀ name, secrets.get? ns name = secrets'.get? ns name)
    (tpp : TppSpec) : bundleOf tpp secrets ns = bundleOf tpp secrets' ns := by
  unfold bundleOf
  simp only [requireSecret_congr h]

/-- A connection depends on the answers of the store for one namespace only. -/
theorem resolve_congr [Certificate.Library]
    (h : ∀ name, secrets.get? ns name = secrets'.get? ns name)
    (issuer : Issuer) (userAgent : String) :
    resolve issuer secrets ns userAgent = resolve issuer secrets' ns userAgent := by
  unfold resolve ofTpp ofCloud
  simp only [requireSecret_congr h, bundleOf_congr h]

/-! ## Descriptions of backends -/

/-- The issuer uses a TPP: one is described, whatever else is. -/
structure UsesTpp (issuer : Issuer) (venafi : VenafiSpec) (tpp : TppSpec) : Prop where
  described : issuer.venafi = some venafi
  tpp : venafi.tpp = some tpp

/-- The issuer uses the cloud service: it is described, and no TPP is. -/
structure UsesCloud (issuer : Issuer) (venafi : VenafiSpec) (cloud : CloudSpec) : Prop where
  described : issuer.venafi = some venafi
  noTpp : venafi.tpp = none
  cloud : venafi.cloud = some cloud

/-- The trust bundle that the description of a TPP asks for: the value that it refers to,
or else the one that it holds itself. -/
inductive BundleOf (tpp : TppSpec) (secrets : SecretStore) (ns : String) : Bytes → Prop where
  | referred {ref : SecretRef} {secret : Secret} {bundle : Bytes}
      (href : tpp.caBundleRef = some ref) (hsecret : secrets.get? ns ref.name = some secret)
      (hvalue : secret.value? (ref.keyOr "ca.crt") = some bundle) : BundleOf tpp secrets ns bundle
  | inline (href : tpp.caBundleRef = none) : BundleOf tpp secrets ns tpp.caBundle

/-- The connection that an issuer describes. -/
inductive Connects [Certificate.Library] (issuer : Issuer) (secrets : SecretStore)
    (ns userAgent : String) : Connection → Prop where
  | tpp {venafi : VenafiSpec} {tpp : TppSpec} {baseUrl : String} {credentials : Secret}
      {bundle : Bytes} (uses : UsesTpp issuer venafi tpp)
      (hurl : BaseUrl.normalize tpp.url = .ok baseUrl)
      (hcredentials : secrets.get? ns tpp.credentials = some credentials)
      (hbundle : BundleOf tpp secrets ns bundle)
      (hvalid : bundle = [] ∨ Certificate.isBundle bundle = true) :
      Connects issuer secrets ns userAgent
        { connector := .tpp
          baseUrl := baseUrl
          zone := venafi.zone
          username := (credentials.value? "username").getD []
          password := (credentials.value? "password").getD []
          accessToken := (credentials.value? "access-token").getD []
          caBundle := bundle
          apiKey := []
          userAgent := userAgent }
  | cloud {venafi : VenafiSpec} {cloud : CloudSpec} {baseUrl : String} {secret : Secret}
      {apiKey : Bytes} (uses : UsesCloud issuer venafi cloud)
      (hurl : BaseUrl.normalize
        (if cloud.url = "" then "https://api.venafi.cloud/" else cloud.url) = .ok baseUrl)
      (hsecret : secrets.get? ns cloud.token.name = some secret)
      (hvalue : secret.value? (cloud.token.keyOr "api-key") = some apiKey) (hgiven : apiKey ≠ []) :
      Connects issuer secrets ns userAgent
        { connector := .cloud
          baseUrl := baseUrl
          zone := venafi.zone
          username := []
          password := []
          accessToken := []
          caBundle := []
          apiKey := apiKey
          userAgent := userAgent }

/-! ## What a resolution gives -/

theorem requireSecret_eq_ok_iff {name : String} {secret : Secret} :
    requireSecret secrets ns name = .ok secret ↔ secrets.get? ns name = some secret := by
  unfold requireSecret
  cases secrets.get? ns name with
  | none => exact ⟨nofun, nofun⟩
  | some secret' =>
    exact ⟨fun h => congrArg some (Except.ok.inj h), fun h => congrArg _ (Option.some.inj h)⟩

theorem bundleOf_eq_ok_iff {bundle : Bytes} :
    bundleOf tpp secrets ns = .ok bundle ↔ BundleOf tpp secrets ns bundle := by
  unfold bundleOf
  constructor
  · intro h
    split at h
    · next ref href =>
      obtain ⟨secret, hsecret, h⟩ := bind_eq_ok_iff.1 h
      split at h
      · next value hvalue =>
        cases h
        exact .referred href (requireSecret_eq_ok_iff.1 hsecret) hvalue
      · cases h
    · next href =>
      cases h
      exact .inline href
  · intro h
    cases h with
    | referred href hsecret hvalue =>
      have hkey : ∀ ref : SecretRef, ref.keyOr caBundleKey = ref.keyOr "ca.crt" := fun _ => rfl
      rw [href]
      dsimp only
      rw [requireSecret_eq_ok_iff.2 hsecret, ok_bind, hkey, hvalue]
    | inline href => rw [href]

theorem BundleOf.unique {bundle bundle' : Bytes} (h : BundleOf tpp secrets ns bundle)
    (h' : BundleOf tpp secrets ns bundle') : bundle = bundle' :=
  Except.ok.inj ((bundleOf_eq_ok_iff.2 h).symm.trans (bundleOf_eq_ok_iff.2 h'))

theorem checkBundle_eq_ok_iff [Certificate.Library] {bundle checked : Bytes} :
    checkBundle bundle = .ok checked ↔
      checked = bundle ∧ (bundle = [] ∨ Certificate.isBundle bundle = true) := by
  unfold checkBundle
  split
  · next hvalid => exact ⟨fun h => ⟨(Except.ok.inj h).symm, hvalid⟩, fun h => congrArg _ h.1.symm⟩
  · next hinvalid => exact ⟨nofun, fun h => absurd h.2 hinvalid⟩

theorem UsesTpp.unique {venafi' : VenafiSpec} {tpp' : TppSpec} (h : UsesTpp issuer venafi tpp)
    (h' : UsesTpp issuer venafi' tpp') : venafi = venafi' ∧ tpp = tpp' := by
  have hvenafi : venafi = venafi' := Option.some.inj (h.described.symm.trans h'.described)
  subst hvenafi
  exact ⟨rfl, Option.some.inj (h.tpp.symm.trans h'.tpp)⟩

theorem UsesCloud.unique {venafi' : VenafiSpec} {cloud' : CloudSpec}
    (h : UsesCloud issuer venafi cloud) (h' : UsesCloud issuer venafi' cloud') :
    venafi = venafi' ∧ cloud = cloud' := by
  have hvenafi : venafi = venafi' := Option.some.inj (h.described.symm.trans h'.described)
  subst hvenafi
  exact ⟨rfl, Option.some.inj (h.cloud.symm.trans h'.cloud)⟩

theorem UsesTpp.not_usesCloud {venafi' : VenafiSpec} (h : UsesTpp issuer venafi tpp)
    (h' : UsesCloud issuer venafi' cloud) : False := by
  have hvenafi : venafi = venafi' := Option.some.inj (h.described.symm.trans h'.described)
  subst hvenafi
  cases h.tpp.symm.trans h'.noTpp

theorem UsesTpp.address (h : UsesTpp issuer venafi tpp) :
    venafi.address? = some (.tpp, tpp.url) := by
  rw [VenafiSpec.address?, h.tpp]

theorem UsesCloud.address (h : UsesCloud issuer venafi cloud) :
    venafi.address? =
      some (.cloud, if cloud.url = "" then "https://api.venafi.cloud/" else cloud.url) := by
  rw [VenafiSpec.address?, h.noTpp, h.cloud]

section Resolution

variable [Certificate.Library]

theorem connects_of_ofTpp (uses : UsesTpp issuer venafi tpp)
    (h : ofTpp venafi.zone tpp secrets ns userAgent = .ok k) :
    Connects issuer secrets ns userAgent k := by
  obtain ⟨baseUrl, hurl, h⟩ := bind_eq_ok_iff.1 h
  obtain ⟨credentials, hcredentials, h⟩ := bind_eq_ok_iff.1 h
  obtain ⟨bundle, hbundle, h⟩ := bind_eq_ok_iff.1 h
  obtain ⟨checked, hchecked, h⟩ := bind_eq_ok_iff.1 h
  obtain ⟨hsame, hvalid⟩ := checkBundle_eq_ok_iff.1 hchecked
  cases h
  subst hsame
  exact .tpp uses hurl (requireSecret_eq_ok_iff.1 hcredentials) (bundleOf_eq_ok_iff.1 hbundle)
    hvalid

theorem connects_of_ofCloud (uses : UsesCloud issuer venafi cloud)
    (h : ofCloud venafi.zone cloud secrets ns userAgent = .ok k) :
    Connects issuer secrets ns userAgent k := by
  obtain ⟨baseUrl, hurl, h⟩ := bind_eq_ok_iff.1 h
  obtain ⟨secret, hsecret, h⟩ := bind_eq_ok_iff.1 h
  dsimp only at h
  split at h
  · cases h
  · next hgiven =>
    cases h
    refine .cloud uses hurl (requireSecret_eq_ok_iff.1 hsecret) ?_ hgiven
    cases hvalue : secret.value? (cloud.token.keyOr apiKeyKey) with
    | some apiKey => exact hvalue
    | none =>
      rw [hvalue] at hgiven
      exact absurd rfl hgiven

/-- A resolution fails for want of a description, or it is one of a TPP or of the cloud
service. -/
theorem resolve_cases (issuer : Issuer) (secrets : SecretStore) (ns userAgent : String) :
    (issuer.venafi = none ∧ resolve issuer secrets ns userAgent =
      .error (.configuration ("issuer " ++ issuer.name ++ " has no venafi configuration"))) ∨
    (∃ venafi, issuer.venafi = some venafi ∧ venafi.tpp = none ∧ venafi.cloud = none ∧
      resolve issuer secrets ns userAgent =
        .error (.configuration "neither Venafi Cloud or TPP configuration found")) ∨
    (∃ venafi tpp, UsesTpp issuer venafi tpp ∧ resolve issuer secrets ns userAgent =
      ofTpp venafi.zone tpp secrets ns userAgent) ∨
    ∃ venafi cloud, UsesCloud issuer venafi cloud ∧ resolve issuer secrets ns userAgent =
      ofCloud venafi.zone cloud secrets ns userAgent := by
  unfold resolve
  cases hvenafi : issuer.venafi with
  | none => exact Or.inl ⟨rfl, rfl⟩
  | some venafi =>
    dsimp only
    cases htpp : venafi.tpp with
    | some tpp => exact Or.inr (Or.inr (Or.inl ⟨venafi, tpp, ⟨hvenafi, htpp⟩, rfl⟩))
    | none =>
      cases hcloud : venafi.cloud with
      | some cloud =>
        exact Or.inr (Or.inr (Or.inr ⟨venafi, cloud, ⟨hvenafi, htpp, hcloud⟩, rfl⟩))
      | none => exact Or.inr (Or.inl ⟨venafi, rfl, htpp, hcloud, rfl⟩)

/-- What is resolved is what the issuer describes. -/
theorem connects_of_resolve (h : resolve issuer secrets ns userAgent = .ok k) :
    Connects issuer secrets ns userAgent k := by
  rcases resolve_cases issuer secrets ns userAgent with
    ⟨-, hresolve⟩ | ⟨_, -, -, -, hresolve⟩ | ⟨_, _, uses, hresolve⟩ | ⟨_, _, uses, hresolve⟩
  · cases h.symm.trans hresolve
  · cases h.symm.trans hresolve
  · exact connects_of_ofTpp uses (hresolve.symm.trans h)
  · exact connects_of_ofCloud uses (hresolve.symm.trans h)

theorem Connects.unique {k' : Connection} (h : Connects issuer secrets ns userAgent k)
    (h' : Connects issuer secrets ns userAgent k') : k = k' := by
  cases h with
  | tpp uses hurl hcredentials hbundle _ =>
    cases h' with
    | tpp uses' hurl' hcredentials' hbundle' _ =>
      obtain ⟨rfl, rfl⟩ := uses.unique uses'
      obtain rfl := Except.ok.inj (hurl.symm.trans hurl')
      obtain rfl := Option.some.inj (hcredentials.symm.trans hcredentials')
      obtain rfl := hbundle.unique hbundle'
      rfl
    | cloud uses' => exact (uses.not_usesCloud uses').elim
  | cloud uses hurl hsecret hvalue _ =>
    cases h' with
    | tpp uses' => exact (uses'.not_usesCloud uses).elim
    | cloud uses' hurl' hsecret' hvalue' _ =>
      obtain ⟨rfl, rfl⟩ := uses.unique uses'
      obtain rfl := Except.ok.inj (hurl.symm.trans hurl')
      obtain rfl := Option.some.inj (hsecret.symm.trans hsecret')
      obtain rfl := Option.some.inj (hvalue.symm.trans hvalue')
      rfl

end Resolution

/-! ## The backend -/

/-- The connection `k` leads to the backend of an issuer: to the service and to the base
URL that the issuer names. -/
structure Resolved (issuer : Issuer) (userAgent : String) (k : Connection) : Prop where
  address : ∃ venafi url, issuer.venafi = some venafi ∧
    venafi.address? = some (k.connector, url) ∧ BaseUrl.normalize url = .ok k.baseUrl
  userAgent : k.userAgent = userAgent
  apiKey : k.connector = .cloud → k.apiKey ≠ []

/-- What is resolved leads to the backend of the issuer. -/
theorem resolved_of_resolve [Certificate.Library]
    (h : resolve issuer secrets ns userAgent = .ok k) : Resolved issuer userAgent k := by
  cases connects_of_resolve h with
  | tpp uses hurl => exact ⟨⟨_, _, uses.described, uses.address, hurl⟩, rfl, nofun⟩
  | cloud uses hurl _ _ hgiven =>
    exact ⟨⟨_, _, uses.described, uses.address, hurl⟩, rfl, fun _ => hgiven⟩

end Connection
end IssuerReadiness
