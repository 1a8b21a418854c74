import IssuerReadiness.Proofs.BaseUrl.Host
import IssuerReadiness.Proofs.Connection

/-!
# What a connection requires

An issuer describes its backend and refers to secrets for the rest, and each of the
references may lead nowhere.  Here every way in which a description can fall short is
listed on its own, without a word on the others (`Unmet`), and the requirements stand in
one order (`Requirement.order`).  If none is unmet then the issuer is connected as it says
(`Connects`), and if some are then the failure is that of the first one.

So the failure that a user reads in the status of an issuer is always about the earliest
mistake, and correcting it can only bring up a later one.

* `Requirement`, `Unmet`, `FirstUnmet`: what may be missing.
* `Connects.met`: a connection has all that it requires.
* `firstUnmet_of_resolve`: what a resolution fails as.
* `resolve_iff`: what it gives, and when.
-/

namespace IssuerReadiness
namespace Connection

variable {issuer : Issuer} {secrets : SecretStore} {ns userAgent : String} {k : Connection}
  {venafi : VenafiSpec} {tpp : TppSpec} {cloud : CloudSpec} {f : Failure}

/-! ## Requirements -/

/-- What a connection requires. -/
inductive Requirement where
  /-- A description of a Venafi backend. -/
  | venafi
  /-- One of its services. -/
  | backend
  | url
  /-- The secret with the credentials of a TPP. -/
  | credentials
  /-- The secret with the trust bundle. -/
  | bundleSecret
  /-- The trust bundle in it. -/
  | bundleKey
  /-- A certificate in the trust bundle. -/
  | certificate
  /-- The secret with the key of the cloud service. -/
  | apiKeySecret
  /-- The key in it. -/
  | apiKey
  deriving DecidableEq, Repr

/-- The requirements in the order in which they are looked at.  No connection has both
those of a TPP and those of the cloud service. -/
def Requirement.order : List Requirement :=
  [.venafi, .backend, .url, .credentials, .bundleSecret, .bundleKey, .certificate, .apiKeySecret,
    .apiKey]

/-- A requirement is not met, and how the failure says so. -/
inductive Unmet [Certificate.Library] (issuer : Issuer) (secrets : SecretStore) (ns : String) :
    Requirement → Failure → Prop where
  | venafi (hnone : issuer.venafi = none) :
      Unmet issuer secrets ns .venafi
        (.configuration ("issuer " ++ issuer.name ++ " has no venafi configuration"))
  | backend {venafi : VenafiSpec} (described : issuer.venafi = some venafi)
      (noTpp : venafi.tpp = none) (noCloud : venafi.cloud = none) :
      Unmet issuer secrets ns .backend
        (.configuration "neither Venafi Cloud or TPP configuration found")
  | url {venafi : VenafiSpec} {connector : Connector} {url : String}
      (described : issuer.venafi = some venafi)
      (haddress : venafi.address? = some (connector, url))
      (hurl : ∀ baseUrl, BaseUrl.normalize url ≠ .ok baseUrl) :
      Unmet issuer secrets ns .url (.configuration ("invalid base URL \"" ++ url ++ "\""))
  | credentials {venafi : VenafiSpec} {tpp : TppSpec} (uses : UsesTpp issuer venafi tpp)
      (hnone : secrets.get? ns tpp.credentials = none) :
      Unmet issuer secrets ns .credentials (.secretNotFound ns tpp.credentials)
  | bundleSecret {venafi : VenafiSpec} {tpp : TppSpec} {ref : SecretRef}
      (uses : UsesTpp issuer venafi tpp) (href : tpp.caBundleRef = some ref)
      (hnone : secrets.get? ns ref.name = none) :
      Unmet issuer secrets ns .bundleSecret (.secretNotFound ns ref.name)
  | bundleKey {venafi : VenafiSpec} {tpp : TppSpec} {ref : SecretRef} {secret : Secret}
      (uses : UsesTpp issuer venafi tpp) (href : tpp.caBundleRef = some ref)
      (hsecret : secrets.get? ns ref.name = some secret)
      (hnone : secret.value? (ref.keyOr "ca.crt") = none) :
      Unmet issuer secrets ns .bundleKey (.configuration ("no data for \"" ++
        ref.keyOr "ca.crt" ++ "\" in secret \"" ++ ns ++ "/" ++ ref.name ++ "\""))
  | certificate {venafi : VenafiSpec} {tpp : TppSpec} {bundle : Bytes}
      (uses : UsesTpp issuer venafi tpp) (hbundle : BundleOf tpp secrets ns bundle)
      (hgiven : bundle ≠ []) (hinvalid : Certificate.isBundle bundle = false) :
      Unmet issuer secrets ns .certificate (.configuration "failed to parse PEM trust bundle")
  | apiKeySecret {venafi : VenafiSpec} {cloud : CloudSpec} (uses : UsesCloud issuer venafi cloud)
      (hnone : secrets.get? ns cloud.token.name = none) :
      Unmet issuer secrets ns .apiKeySecret (.secretNotFound ns cloud.token.name)
  | apiKey {venafi : VenafiSpec} {cloud : CloudSpec} {secret : Secret}
      (uses : UsesCloud issuer venafi cloud)
      (hsecret : secrets.get? ns cloud.token.name = some secret)
      (hnone : ∀ apiKey, secret.value? (cloud.token.keyOr "api-key") = some apiKey → apiKey = []) :
      Unmet issuer secrets ns .apiKey (.configuration ("no data for \"" ++
        cloud.token.keyOr "api-key" ++ "\" in secret \"" ++ ns ++ "/" ++ cloud.token.name ++ "\""))

/-- A requirement is met. -/
def Met [Certificate.Library] (issuer : Issuer) (secrets : SecretStore) (ns : String)
    (r : Requirement) : Prop :=
  ∀ f, ¬ Unmet issuer secrets ns r f

/-- A requirement is not met, all those before it are, and the failure says so. -/
def FirstUnmet [Certificate.Library] (issuer : Issuer) (secrets : SecretStore) (ns : String)
    (f : Failure) : Prop :=
  ∃ before r after, Requirement.order = before ++ r :: after ∧
    (∀ r' ∈ before, Met issuer secrets ns r') ∧ Unmet issuer secrets ns r f

/-! ## Failures of the parts -/

theorem requireSecret_eq_error_iff {name : String} :
    requireSecret secrets ns name = .error f ↔
      secrets.get? ns name = none ∧ f = .secretNotFound ns name := by
  unfold requireSecret
  cases secrets.get? ns name with
  | none => exact ⟨fun h => ⟨rfl, (Except.error.inj h).symm⟩, fun h => congrArg _ h.2.symm⟩
  | some secret' => exact ⟨nofun, nofun⟩

theorem exists_of_bundleOf_eq_error (h : bundleOf tpp secrets ns = .error f) :
    ∃ ref, tpp.caBundleRef = some ref ∧
      ((secrets.get? ns ref.name = none ∧ f = .secretNotFound ns ref.name) ∨
        ∃ secret, secrets.get? ns ref.name = some secret ∧
          secret.value? (ref.keyOr "ca.crt") = none ∧
          f = noData (ref.keyOr "ca.crt") ns ref.name) := by
  unfold bundleOf at h
  split at h
  · next ref href =>
    refine ⟨ref, href, ?_⟩
    rcases bind_eq_error_iff.1 h with h | ⟨secret, hsecret, h⟩
    · exact Or.inl (requireSecret_eq_error_iff.1 h)
    · split at h
      · cases h
      · next hnone =>
        cases h
        exact Or.inr ⟨secret, requireSecret_eq_ok_iff.1 hsecret, hnone, rfl⟩
  · cases h

variable [Certificate.Library]

theorem of_checkBundle_eq_error {bundle : Bytes} (h : checkBundle bundle = .error f) :
    bundle ≠ [] ∧ Certificate.isBundle bundle = false ∧
      f = .configuration "failed to parse PEM trust bundle" := by
  unfold checkBundle at h
  split at h
  · cases h
  · next hinvalid =>
    cases h
    exact ⟨fun hempty => hinvalid (Or.inl hempty),
      Bool.eq_false_iff.2 fun hbundle => hinvalid (Or.inr hbundle), rfl⟩

/-! ## Met requirements -/

theorem met_venafi (described : issuer.venafi = some venafi) : Met issuer secrets ns .venafi := by
  intro f h
  cases h with
  | venafi hnone => cases described.symm.trans hnone

theorem met_backend (described : issuer.venafi = some venafi) {a : Connector × String}
    (haddress : venafi.address? = some a) : Met issuer secrets ns .backend := by
  intro f h
  cases h with
  | backend described' noTpp noCloud =>
    cases described.symm.trans described'
    rw [VenafiSpec.address?, noTpp, noCloud] at haddress
    cases haddress

theorem met_url (described : issuer.venafi = some venafi) {connector : Connector}
    {url baseUrl : String} (haddress : venafi.address? = some (connector, url))
    (hurl : BaseUrl.normalize url = .ok baseUrl) : Met issuer secrets ns .url := by
  intro f h
  cases h with
  | url described' haddress' hurl' =>
    cases described.symm.trans described'
    cases haddress.symm.trans haddress'
    exact hurl' _ hurl

theorem met_credentials (uses : UsesTpp issuer venafi tpp) {credentials : Secret}
    (hcredentials : secrets.get? ns tpp.credentials = some credentials) :
    Met issuer secrets ns .credentials := by
  intro f h
  cases h with
  | credentials uses' hnone =>
    obtain ⟨-, rfl⟩ := uses.unique uses'
    cases hcredentials.symm.trans hnone

theorem met_bundleSecret (uses : UsesTpp issuer venafi tpp)
    (hsecret : ∀ ref, tpp.caBundleRef = some ref → secrets.get? ns ref.name ≠ none) :
    Met issuer secrets ns .bundleSecret := by
  intro f h
  cases h with
  | bundleSecret uses' href hnone =>
    obtain ⟨-, rfl⟩ := uses.unique uses'
    exact hsecret _ href hnone

theorem met_bundleKey (uses : UsesTpp issuer venafi tpp) {bundle : Bytes}
    (hbundle : BundleOf tpp secrets ns bundle) : Met issuer secrets ns .bundleKey := by
  intro f h
  cases h with
  | bundleKey uses' href hsecret hnone =>
    obtain ⟨-, rfl⟩ := uses.unique uses'
    cases hbundle with
    | referred href' hsecret' hvalue =>
      cases href.symm.trans href'
      cases hsecret.symm.trans hsecret'
      cases hvalue.symm.trans hnone
    | inline href' => cases href.symm.trans href'

theorem BundleOf.met_bundleSecret {bundle : Bytes} (hbundle : BundleOf tpp secrets ns bundle)
    (uses : UsesTpp issuer venafi tpp) : Met issuer secrets ns .bundleSecret := by
  refine Connection.met_bundleSecret uses fun ref href hnone => ?_
  cases hbundle with
  | referred href' hsecret' =>
    cases href.symm.trans href'
    cases hsecret'.symm.trans hnone
  | inline href' => cases href.symm.trans href'

theorem met_certificate (uses : UsesTpp issuer venafi tpp) {bundle : Bytes}
    (hbundle : BundleOf tpp secrets ns bundle)
    (hvalid : bundle = [] ∨ Certificate.isBundle bundle = true) :
    Met issuer secrets ns .certificate := by
  intro f h
  cases h with
  | certificate uses' hbundle' hgiven hinvalid =>
    obtain ⟨-, rfl⟩ := uses.unique uses'
    obtain rfl := hbundle.unique hbundle'
    rcases hvalid with hempty | hvalid
    · exact hgiven hempty
    · cases hvalid.symm.trans hinvalid

theorem met_apiKeySecret (uses : UsesCloud issuer venafi cloud) {secret : Secret}
    (hsecret : secrets.get? ns cloud.token.name = some secret) :
    Met issuer secrets ns .apiKeySecret := by
  intro f h
  cases h with
  | apiKeySecret uses' hnone =>
    obtain ⟨-, rfl⟩ := uses.unique uses'
    cases hsecret.symm.trans hnone

theorem met_apiKey (uses : UsesCloud issuer venafi cloud) {secret : Secret} {apiKey : Bytes}
    (hsecret : secrets.get? ns cloud.token.name = some secret)
    (hvalue : secret.value? (cloud.token.keyOr "api-key") = some apiKey) (hgiven : apiKey ≠ []) :
    Met issuer secrets ns .apiKey := by
  intro f h
  cases h with
  | apiKey uses' hsecret' hnone =>
    obtain ⟨-, rfl⟩ := uses.unique uses'
    cases hsecret.symm.trans hsecret'
    exact hgiven (hnone _ hvalue)

/-- The requirements of the cloud service are none of those of a TPP. -/
theorem UsesTpp.met_cloud (uses : UsesTpp issuer venafi tpp) :
    ∀ r ∈ [Requirement.apiKeySecret, .apiKey], Met issuer secrets ns r := by
  intro r hr f h
  cases h with
  | apiKeySecret uses' => exact uses.not_usesCloud uses'
  | apiKey uses' => exact uses.not_usesCloud uses'
  | venafi | backend | url | credentials | bundleSecret | bundleKey | certificate =>
    exact absurd hr (by decide)

/-- The requirements of a TPP are none of those of the cloud service. -/
theorem UsesCloud.met_tpp (uses : UsesCloud issuer venafi cloud) :
    ∀ r ∈ [Requirement.credentials, .bundleSecret, .bundleKey, .certificate],
      Met issuer secrets ns r := by
  intro r hr f h
  cases h with
  | credentials uses' => exact uses'.not_usesCloud uses
  | bundleSecret uses' => exact uses'.not_usesCloud uses
  | bundleKey uses' => exact uses'.not_usesCloud uses
  | certificate uses' => exact uses'.not_usesCloud uses
  | venafi | backend | url | apiKeySecret | apiKey => exact absurd hr (by decide)

theorem Connects.met (h : Connects issuer secrets ns userAgent k) (r : Requirement) :
    Met issuer secrets ns r := by
  cases h with
  | tpp uses hurl hcredentials hbundle hvalid =>
    cases r with
    | venafi => exact met_venafi uses.described
    | backend => exact met_backend uses.described uses.address
    | url => exact met_url uses.described uses.address hurl
    | credentials => exact met_credentials uses hcredentials
    | bundleSecret => exact hbundle.met_bundleSecret uses
    | bundleKey => exact met_bundleKey uses hbundle
    | certificate => exact met_certificate uses hbundle hvalid
    | apiKeySecret | apiKey => exact uses.met_cloud _ (by decide)
  | cloud uses hurl hsecret hvalue hgiven =>
    cases r with
    | venafi => exact met_venafi uses.described
    | backend => exact met_backend uses.described uses.address
    | url => exact met_url uses.described uses.address hurl
    | credentials | bundleSecret | bundleKey | certificate => exact uses.met_tpp _ (by decide)
    | apiKeySecret => exact met_apiKeySecret uses hsecret
    | apiKey => exact met_apiKey uses hsecret hvalue hgiven

/-! ## What a resolution fails as -/

/-- The URL is looked at first, and there is a URL as soon as a service is described. -/
theorem firstUnmet_or_met_url (described : issuer.venafi = some venafi) {connector : Connector}
    {url : String} (haddress : venafi.address? = some (connector, url))
    {next : String → Except Failure Connection} (h : BaseUrl.normalize url >>= next = .error f) :
    FirstUnmet issuer secrets ns f ∨
      ∃ baseUrl, next baseUrl = .error f ∧ Met issuer secrets ns .venafi ∧
        Met issuer secrets ns .backend ∧ Met issuer secrets ns .url := by
  have hvenafi : Met issuer secrets ns .venafi := met_venafi described
  have hbackend : Met issuer secrets ns .backend := met_backend described haddress
  rcases bind_eq_error_iff.1 h with hurl | ⟨baseUrl, hurl, h⟩
  · obtain ⟨hrefused, rfl⟩ := BaseUrl.normalize_eq_error_iff.1 hurl
    exact Or.inl ⟨[.venafi, .backend], .url, _, rfl, by simpa using ⟨hvenafi, hbackend⟩,
      .url described haddress hrefused⟩
  · exact Or.inr ⟨baseUrl, h, hvenafi, hbackend, met_url described haddress hurl⟩

theorem firstUnmet_of_ofTpp (uses : UsesTpp issuer venafi tpp)
    (h : ofTpp venafi.zone tpp secrets ns userAgent = .error f) :
    FirstUnmet issuer secrets ns f := by
  rcases firstUnmet_or_met_url uses.described uses.address h with
    hfirst | ⟨baseUrl, h, hvenafi, hbackend, hurl⟩
  · exact hfirst
  rcases bind_eq_error_iff.1 h with hcredentials | ⟨credentials, hcredentials, h⟩
  · obtain ⟨hnone, rfl⟩ := requireSecret_eq_error_iff.1 hcredentials
    exact ⟨[.venafi, .backend, .url], .credentials, _, rfl,
      by simpa using ⟨hvenafi, hbackend, hurl⟩, .credentials uses hnone⟩
  have hcredentials := met_credentials uses (requireSecret_eq_ok_iff.1 hcredentials)
  rcases bind_eq_error_iff.1 h with hbundle | ⟨bundle, hbundle, h⟩
  · obtain ⟨ref, href, ⟨hnone, rfl⟩ | ⟨secret, hsecret, hnone, rfl⟩⟩ :=
      exists_of_bundleOf_eq_error hbundle
    · exact ⟨[.venafi, .backend, .url, .credentials], .bundleSecret, _, rfl,
        by simpa using ⟨hvenafi, hbackend, hurl, hcredentials⟩, .bundleSecret uses href hnone⟩
    · have hfound : Met issuer secrets ns .bundleSecret := by
        refine met_bundleSecret uses fun ref' href' hnone' => ?_
        cases href.symm.trans href'
        cases hsecret.symm.trans hnone'
      exact ⟨[.venafi, .backend, .url, .credentials, .bundleSecret], .bundleKey, _, rfl,
        by simpa using ⟨hvenafi, hbackend, hurl, hcredentials, hfound⟩,
        .bundleKey uses href hsecret hnone⟩
  have hbundle := bundleOf_eq_ok_iff.1 hbundle
  rcases bind_eq_error_iff.1 h with hchecked | ⟨checked, hchecked, h⟩
  · obtain ⟨hgiven, hinvalid, rfl⟩ := of_checkBundle_eq_error hchecked
    exact ⟨[.venafi, .backend, .url, .credentials, .bundleSecret, .bundleKey], .certificate, _, rfl,
      by simpa using ⟨hvenafi, hbackend, hurl, hcredentials, hbundle.met_bundleSecret uses,
        met_bundleKey uses hbundle⟩, .certificate uses hbundle hgiven hinvalid⟩
  · cases h

theorem firstUnmet_of_ofCloud (uses : UsesCloud issuer venafi cloud)
    (h : ofCloud venafi.zone cloud secrets ns userAgent = .error f) :
    FirstUnmet issuer secrets ns f := by
  rcases firstUnmet_or_met_url uses.described uses.address h with
    hfirst | ⟨baseUrl, h, hvenafi, hbackend, hurl⟩
  · exact hfirst
  have htpp : ∀ r ∈ [Requirement.credentials, .bundleSecret, .bundleKey, .certificate],
      Met issuer secrets ns r := uses.met_tpp
  simp only [List.forall_mem_cons] at htpp
  obtain ⟨hcredentials, hbundleSecret, hbundleKey, hcertificate, -⟩ := htpp
  rcases bind_eq_error_iff.1 h with hsecret | ⟨secret, hsecret, h⟩
  · obtain ⟨hnone, rfl⟩ := requireSecret_eq_error_iff.1 hsecret
    exact ⟨[.venafi, .backend, .url, .credentials, .bundleSecret, .bundleKey, .certificate],
      .apiKeySecret, _, rfl, by simpa using ⟨hvenafi, hbackend, hurl, hcredentials, hbundleSecret,
        hbundleKey, hcertificate⟩, .apiKeySecret uses hnone⟩
  have hsecret := requireSecret_eq_ok_iff.1 hsecret
  dsimp only at h
  split at h
  · next hempty =>
    cases h
    refine ⟨[.venafi, .backend, .url, .credentials, .bundleSecret, .bundleKey, .certificate,
      .apiKeySecret], .apiKey, _, rfl, by simpa using ⟨hvenafi, hbackend, hurl, hcredentials,
        hbundleSecret, hbundleKey, hcertificate, met_apiKeySecret uses hsecret⟩,
      .apiKey uses hsecret fun apiKey hvalue => ?_⟩
    have hvalue : secret.value? (cloud.token.keyOr apiKeyKey) = some apiKey := hvalue
    rwa [hvalue] at hempty
  · cases h

theorem firstUnmet_of_resolve (h : resolve issuer secrets ns userAgent = .error f) :
    FirstUnmet issuer secrets ns f := by
  rcases resolve_cases issuer secrets ns userAgent with
    ⟨hnone, hresolve⟩ | ⟨_, described, noTpp, noCloud, hresolve⟩ | ⟨_, _, uses, hresolve⟩ |
      ⟨_, _, uses, hresolve⟩
  · cases h.symm.trans hresolve
    exact ⟨[], .venafi, _, rfl, nofun, .venafi hnone⟩
  · cases h.symm.trans hresolve
    exact ⟨[.venafi], .backend, _, rfl, by simpa using met_venafi described,
      .backend described noTpp noCloud⟩
  · exact firstUnmet_of_ofTpp uses (hresolve.symm.trans h)
  · exact firstUnmet_of_ofCloud uses (hresolve.symm.trans h)

/-! ## The relations leave no choice -/

theorem Unmet.unique {r : Requirement} {f' : Failure} (h : Unmet issuer secrets ns r f)
    (h' : Unmet issuer secrets ns r f') : f = f' := by
  cases h with
  | venafi =>
    cases h' with
    | venafi => rfl
  | backend =>
    cases h' with
    | backend => rfl
  | url described haddress =>
    cases h' with
    | url described' haddress' =>
      cases described.symm.trans described'
      cases haddress.symm.trans haddress'
      rfl
  | credentials uses =>
    cases h' with
    | credentials uses' =>
      obtain ⟨-, rfl⟩ := uses.unique uses'
      rfl
  | bundleSecret uses href =>
    cases h' with
    | bundleSecret uses' href' =>
      obtain ⟨-, rfl⟩ := uses.unique uses'
      cases href.symm.trans href'
      rfl
  | bundleKey uses href =>
    cases h' with
    | bundleKey uses' href' =>
      obtain ⟨-, rfl⟩ := uses.unique uses'
      cases href.symm.trans href'
      rfl
  | certificate =>
    cases h' with
    | certificate => rfl
  | apiKeySecret uses =>
    cases h' with
    | apiKeySecret uses' =>
      obtain ⟨-, rfl⟩ := uses.unique uses'
      rfl
  | apiKey uses =>
    cases h' with
    | apiKey uses' =>
      obtain ⟨-, rfl⟩ := uses.unique uses'
      rfl

/-- The first requirement that is not met is one of two, or they are one. -/
theorem FirstUnmet.unique {f' : Failure} (h : FirstUnmet issuer secrets ns f)
    (h' : FirstUnmet issuer secrets ns f') : f = f' := by
  obtain ⟨before, r, after, horder, hmet, hunmet⟩ := h
  obtain ⟨before', r', after', horder', hmet', hunmet'⟩ := h'
  rcases List.append_eq_append_iff.1 (horder.symm.trans horder') with
    ⟨rest, hbefore, hrest⟩ | ⟨rest, hbefore, hrest⟩
  · cases rest with
    | nil =>
      obtain ⟨rfl, -⟩ := List.cons.inj hrest
      exact hunmet.unique hunmet'
    | cons s rest =>
      obtain ⟨rfl, -⟩ := List.cons.inj hrest
      exact absurd hunmet (hmet' r (by simp [hbefore]) f)
  · cases rest with
    | nil =>
      obtain ⟨rfl, -⟩ := List.cons.inj hrest
      exact hunmet.unique hunmet'
    | cons s rest =>
      obtain ⟨rfl, -⟩ := List.cons.inj hrest
      exact absurd hunmet' (hmet r' (by simp [hbefore]) f')

theorem FirstUnmet.not_connects (h : FirstUnmet issuer secrets ns f) :
    ¬ Connects issuer secrets ns userAgent k := by
  obtain ⟨-, r, -, -, -, hunmet⟩ := h
  exact fun hconnects => hconnects.met r f hunmet

theorem FirstUnmet.kind (h : FirstUnmet issuer secrets ns f) :
    (∃ message, f = .configuration message) ∨ ∃ name, f = .secretNotFound ns name := by
  obtain ⟨-, r, -, -, -, hunmet⟩ := h
  cases hunmet with
  | venafi | backend | url | bundleKey | certificate | apiKey => exact Or.inl ⟨_, rfl⟩
  | credentials | bundleSecret | apiKeySecret => exact Or.inr ⟨_, rfl⟩

/-- **Resolution of connections.**  Whatever the issuer and the secrets are, a resolution
gives the connection that the issuer describes, and it does so if and only if there is one:
with a TPP if the issuer describes one, even beside the cloud service, with the base URL of
the service, with the credentials and the trust bundle that its secrets hold, and with
nothing of the other service.  Otherwise it fails as the first requirement that is not met,
in the order of requirements, and this is a failure of the configuration or a secret that
does not exist. -/
theorem resolve_iff (issuer : Issuer) (secrets : SecretStore) (ns userAgent : String) :
    (∀ k, resolve issuer secrets ns userAgent = .ok k ↔ Connects issuer secrets ns userAgent k) ∧
    (∀ f, resolve issuer secrets ns userAgent = .error f ↔ FirstUnmet issuer secrets ns f) ∧
    ∀ f, FirstUnmet issuer secrets ns f →
      (∃ message, f = .configuration message) ∨ ∃ name, f = .secretNotFound ns name := by
  cases hresolve : resolve issuer secrets ns userAgent with
  | ok k =>
    have hconnects := connects_of_resolve hresolve
    refine ⟨fun k' => ?_, fun f => ?_, fun f => FirstUnmet.kind⟩
    · exact ⟨fun h => Except.ok.inj h ▸ hconnects, fun h => congrArg _ (hconnects.unique h)⟩
    · exact ⟨nofun, fun h => absurd hconnects h.not_connects⟩
  | error f =>
    have hfirst := firstUnmet_of_resolve hresolve
    refine ⟨fun k => ?_, fun f' => ?_, fun f => FirstUnmet.kind⟩
    · exact ⟨nofun, fun h => absurd h hfirst.not_connects⟩
    · exact ⟨fun h => Except.error.inj h ▸ hfirst, fun h => congrArg _ (hfirst.unique h)⟩

end Connection
end IssuerReadiness
