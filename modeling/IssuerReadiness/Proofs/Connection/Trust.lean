import IssuerReadiness.Certificate.Bundle
import IssuerReadiness.Json.Parser
import IssuerReadiness.Proofs.Client.Exchange
import IssuerReadiness.Proofs.Connection
import Mathlib.Logic.Relation

/-!
# Whose certificates are trusted

The description of a TPP may ask for a trust bundle, by a reference or by holding one.
What is asked for must then hold a certificate, unless it is empty: a reference may lead to
a value that is there and has no bytes, and this is not refused.  The connection then has
an empty trust bundle, which is how a connection says that the certificates of the system
are trusted, just as if nothing had been asked for.

The trust bundle of a connection is sent with each of its requests.  A client may be used
for as long as one likes, and so the statement is about a whole course of uses
(`Client.Use`): all requests that were added carry the bundle (`Session.Carries`).

* `BundleOf.eq_nil_iff`: when a bundle that is asked for is empty.
* `Venafi.Asked.carries`, `ClientOf.carries_use`: one operation, and one use of a client.
* `ClientOf.carries`: a course of uses.
* `trusts_of_resolve`: what is trusted where a trust bundle is asked for.
-/

namespace IssuerReadiness

/-! ## Trust bundles that are asked for -/

/-- The description of a TPP asks for a trust bundle: it refers to one or holds one. -/
def TppSpec.AsksForBundle (tpp : TppSpec) : Prop :=
  tpp.caBundleRef ≠ none ∨ tpp.caBundle ≠ []

namespace Connection

variable {secrets : SecretStore} {ns : String} {tpp : TppSpec} {bundle : Bytes}

/-- The description of a TPP refers to a value that is there and is empty. -/
def RefersToEmpty (tpp : TppSpec) (secrets : SecretStore) (ns : String) : Prop :=
  ∃ ref secret, tpp.caBundleRef = some ref ∧ secrets.get? ns ref.name = some secret ∧
    secret.value? (ref.keyOr "ca.crt") = some []

/-- A trust bundle that is asked for is empty only if this is what the reference leads to. -/
theorem BundleOf.eq_nil_iff (h : BundleOf tpp secrets ns bundle) (asked : tpp.AsksForBundle) :
    bundle = [] ↔ RefersToEmpty tpp secrets ns := by
  constructor
  · intro hempty
    cases h with
    | referred href hsecret hvalue => exact ⟨_, _, href, hsecret, hempty ▸ hvalue⟩
    | inline href => exact absurd hempty (asked.resolve_left (not_not_intro href))
  · rintro ⟨ref, secret, href, hsecret, hvalue⟩
    exact h.unique (.referred href hsecret hvalue)

end Connection

/-! ## What requests carry -/

namespace Session

variable {bundle : Bytes} {σ τ υ : Session}

/-- All requests that were sent between two sessions carry a trust bundle. -/
def Carries (bundle : Bytes) (σ τ : Session) : Prop :=
  ∃ sent : List Http.Request, τ.network.requests = σ.network.requests ++ sent ∧
    ∀ r ∈ sent, r.caBundle = bundle

theorem Carries.of_requests_eq (h : τ.network.requests = σ.network.requests) :
    Carries bundle σ τ :=
  ⟨[], by rw [h, List.append_nil], nofun⟩

theorem Carries.trans (h : Carries bundle σ τ) (h' : Carries bundle τ υ) :
    Carries bundle σ υ := by
  obtain ⟨sent, hsent, hbundle⟩ := h
  obtain ⟨sent', hsent', hbundle'⟩ := h'
  refine ⟨sent ++ sent', by rw [hsent', hsent, List.append_assoc], fun r hr => ?_⟩
  exact (List.mem_append.1 hr).elim (hbundle r) (hbundle' r)

end Session

namespace Venafi

variable {c : Setting} {ctx : Context} {q : Query} {σ τ : Session}

/-- A request of a client is sent with the trust bundle of the connection. -/
theorem carries_request {remaining : Option Int}
    (h : τ.network.requests = σ.network.requests ++ [c.request q remaining]) :
    Session.Carries c.connection.caBundle σ τ := by
  refine ⟨_, h, fun r hr => ?_⟩
  rw [List.mem_singleton.1 hr]
  rfl

theorem Asked.carries {α : Type} {P : α → Int → Prop} {r : Except Failure α}
    (h : Asked c ctx q P σ r τ) : Session.Carries c.connection.caBundle σ τ := by
  cases h with
  | unsent hrequests => exact .of_requests_eq hrequests
  | failed _ hrequests => exact carries_request hrequests
  | answered _ hrequests => exact carries_request hrequests

theorem carries_verify [Json.Library] (c : Setting) (ctx : Context) (σ : Session) :
    Session.Carries c.connection.caBundle σ (verify c ctx σ).2 := by
  rcases unset_or_chosen c.connection with h | ⟨way, h⟩
  · rw [verify_of_unset h]
    exact .of_requests_eq rfl
  · exact (asks_verify_of_chosen h ctx σ).carries

end Venafi

/-! ## Courses of uses -/

/-- One use of a client, from one session to another: one of its operations is called, or
something happens in between that sends nothing. -/
inductive Client.Use (client : Client) : Session → Session → Prop where
  | ping (ctx : Context) (σ : Session) : client.Use σ (client.ping ctx σ).2
  | verify {operation : Context → Action Unit} (h : client.verify? = some operation)
      (ctx : Context) (σ : Session) : client.Use σ (operation ctx σ).2
  | between {σ τ : Session} (h : τ.network.requests = σ.network.requests) : client.Use σ τ

namespace Connection

variable {issuer : Issuer} {secrets : SecretStore} {ns userAgent : String} {k : Connection}
  {venafi : VenafiSpec} {tpp : TppSpec} {client : Client}

/-- The clients of a connection: the one that it has by itself, and those whose operations
are timed. -/
inductive ClientOf [Json.Library] (k : Connection) : Client → Prop where
  | plain (connectTimeout : Int) (logger : Logger) :
      ClientOf k (Venafi.client ⟨k, connectTimeout, logger⟩)
  | timed {client : Client} (h : ClientOf k client) (metered : Bool) (logger : Logger) :
      ClientOf k (client.instrument metered logger)

theorem requests_timed (operation : String) (metered : Bool) (logger : Logger) (a : Action Unit)
    (σ : Session) : (a.timed operation metered logger σ).2.network.requests =
      (a σ).2.network.requests := by
  cases metered <;> rfl

/-- One use of a client of a connection. -/
theorem ClientOf.carries_use [Json.Library] (h : ClientOf k client) {σ τ : Session}
    (huse : client.Use σ τ) : Session.Carries k.caBundle σ τ := by
  induction h generalizing σ τ with
  | plain connectTimeout logger =>
    cases huse with
    | ping ctx => exact (Venafi.asks_ping _ ctx σ).carries
    | verify hverify ctx =>
      cases hverify
      exact Venafi.carries_verify _ ctx σ
    | between hrequests => exact .of_requests_eq hrequests
  | @timed client h metered logger ih =>
    cases huse with
    | ping ctx =>
      exact (ih (.ping ctx σ)).trans (.of_requests_eq (requests_timed _ metered logger _ σ))
    | verify htimed ctx =>
      obtain ⟨operation, hverify, rfl⟩ := Option.map_eq_some_iff.1 htimed
      exact (ih (.verify hverify ctx σ)).trans
        (.of_requests_eq (requests_timed _ metered logger _ σ))
    | between hrequests => exact .of_requests_eq hrequests

/-- However a client of a connection is used, what it sends carries the trust bundle of the
connection. -/
theorem ClientOf.carries [Json.Library] (h : ClientOf k client) {σ τ : Session}
    (hcourse : Relation.ReflTransGen client.Use σ τ) : Session.Carries k.caBundle σ τ := by
  induction hcourse with
  | refl => exact .of_requests_eq rfl
  | tail _ huse ih => exact ih.trans (h.carries_use huse)

/-! ## What is trusted -/

/-- **Trust bundles that are asked for.**  If the description of a TPP asks for a trust
bundle and a connection is resolved, then the bundle of the connection is not empty and
holds a certificate, unless the description refers to a value that is empty; in this case
the bundle is empty, and nothing says so.  Either way it is what all requests are sent with,
however the clients of the connection are used. -/
theorem trusts_of_resolve [Json.Library] [Certificate.Library]
    (uses : UsesTpp issuer venafi tpp) (asked : tpp.AsksForBundle)
    (h : resolve issuer secrets ns userAgent = .ok k) :
    (¬ RefersToEmpty tpp secrets ns →
        k.caBundle ≠ [] ∧ Certificate.isBundle k.caBundle = true) ∧
      (RefersToEmpty tpp secrets ns → k.caBundle = []) ∧
      ∀ client, ClientOf k client → ∀ σ τ, Relation.ReflTransGen client.Use σ τ →
        Session.Carries k.caBundle σ τ := by
  have hclients : ∀ client, ClientOf k client → ∀ σ τ, Relation.ReflTransGen client.Use σ τ →
      Session.Carries k.caBundle σ τ :=
    fun _ hclient _ _ hcourse => hclient.carries hcourse
  cases connects_of_resolve h with
  | cloud uses' => exact (uses.not_usesCloud uses').elim
  | tpp uses' _ _ hbundle hvalid =>
    obtain ⟨-, rfl⟩ := uses.unique uses'
    refine ⟨fun hgiven => ?_, (hbundle.eq_nil_iff asked).2, hclients⟩
    have hne := mt (hbundle.eq_nil_iff asked).1 hgiven
    exact ⟨hne, hvalid.resolve_left hne⟩

/-- A description of a TPP whose trust bundle is in the secret `ca`. -/
def guardedTpp : TppSpec where
  url := "tpp.example.com"
  credentials := "tpp"
  caBundleRef := some { name := "ca" }

/-- An issuer with this TPP. -/
def guardedIssuer : Issuer where
  kind := .namespaced
  name := "a"
  ns := "team"
  venafi := some { zone := "z", tpp := some guardedTpp }

/-- The secrets of the issuer, with a trust bundle in the secret `ca`. -/
def guardedSecrets (bundle : Bytes) : SecretStore :=
  .addAll {}
    [{ name := "tpp", ns := "team", data := [("access-token", [0x74])] },
      { name := "ca", ns := "team", data := [("ca.crt", bundle)] }]

/-- The connection of the issuer. -/
def guardedConnection (bundle : Bytes) : Connection where
  connector := .tpp
  baseUrl := "https://tpp.example.com/"
  zone := "z"
  accessToken := [0x74]
  caBundle := bundle
  userAgent := "ua"

theorem bundleOf_guardedSecrets (bundle : Bytes) :
    BundleOf guardedTpp (guardedSecrets bundle) "team" bundle :=
  .referred rfl rfl rfl

theorem resolve_guardedSecrets [Certificate.Library] (bundle : Bytes)
    (h : bundle = [] ∨ Certificate.isBundle bundle = true) :
    resolve guardedIssuer (guardedSecrets bundle) "team" "ua" = .ok (guardedConnection bundle) := by
  have hsteps : resolve guardedIssuer (guardedSecrets bundle) "team" "ua" =
      checkBundle bundle >>= fun checked => .ok (guardedConnection checked) := rfl
  rw [hsteps, checkBundle_eq_ok_iff.2 ⟨rfl, h⟩]
  rfl

/-- A trust bundle of one certificate. -/
def plainBundle : Bytes :=
  Bytes.ofString <| "-----BEGIN CERTIFICATE-----\n" ++
    "MEMwOAIBATAEBgIqAzAAMB4XDTI1MDEwMTAwMDAwMFoXDTM1MDEwMTAwMDAwMFow\n" ++
    "ADAJMAQGAioDAwEAMAQGAioDAwEA\n" ++ "-----END CERTIFICATE-----\n"

/-- A certificate that is asked for is trusted, and a ping is sent with it. -/
theorem trusts_plainBundle :
    UsesTpp guardedIssuer { zone := "z", tpp := some guardedTpp } guardedTpp ∧
      guardedTpp.AsksForBundle ∧ ¬ RefersToEmpty guardedTpp (guardedSecrets plainBundle) "team" ∧
      ∃ k, @resolve Certificate.pem guardedIssuer (guardedSecrets plainBundle) "team" "ua" = .ok k ∧
        k.caBundle ≠ [] ∧ @Certificate.isBundle Certificate.pem k.caBundle = true ∧
        Session.Carries k.caBundle { moment := { now := 0 } }
          ((@Venafi.client Json.strict ⟨k, 10, {}⟩).ping ⟨0, none⟩
            { moment := { now := 0 } }).2 := by
  let _ := Json.strict
  let _ := Certificate.pem
  have uses : UsesTpp guardedIssuer { zone := "z", tpp := some guardedTpp } guardedTpp := ⟨rfl, rfl⟩
  have asked : guardedTpp.AsksForBundle := Or.inl (by decide)
  have hresolve := resolve_guardedSecrets plainBundle (Or.inr (by decide +kernel))
  have hgiven : ¬ RefersToEmpty guardedTpp (guardedSecrets plainBundle) "team" :=
    mt ((bundleOf_guardedSecrets plainBundle).eq_nil_iff asked).2 (by decide +kernel)
  obtain ⟨htrusted, -, hclients⟩ := trusts_of_resolve uses asked hresolve
  obtain ⟨hne, hvalid⟩ := htrusted hgiven
  have hping := hclients _ (.plain 10 {}) { moment := { now := 0 } } _ (.single (.ping ⟨0, none⟩ _))
  exact ⟨uses, asked, hgiven, _, hresolve, hne, hvalid, hping⟩

/-- A reference to an empty value is no failure: the connection trusts the certificates of
the system, and a ping is sent so. -/
theorem caBundle_guardedConnection :
    UsesTpp guardedIssuer { zone := "z", tpp := some guardedTpp } guardedTpp ∧
      guardedTpp.AsksForBundle ∧
      ∃ k, @resolve Certificate.pem guardedIssuer (guardedSecrets []) "team" "ua" = .ok k ∧
        k.caBundle = [] ∧
        ((@Venafi.client Json.strict ⟨k, 10, {}⟩).ping ⟨0, none⟩
          { moment := { now := 0 } }).2.network.requests.map (·.caBundle) = [[]] :=
  ⟨⟨rfl, rfl⟩, Or.inl (by decide), _, @resolve_guardedSecrets Certificate.pem [] (Or.inl rfl), rfl,
    by decide +kernel⟩

end Connection
end IssuerReadiness
