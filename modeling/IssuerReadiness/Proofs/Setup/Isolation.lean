import IssuerReadiness.Certificate.Bundle
import IssuerReadiness.Client.Venafi
import IssuerReadiness.Json.Parser
import IssuerReadiness.Proofs.Connection
import IssuerReadiness.Proofs.Secret.Store
import IssuerReadiness.Proofs.Setup.Stages

/-!
# Secrets stay in their namespace

An issuer belongs to a namespace or to the cluster, and this alone decides in which
namespace its secrets are looked up.  A setup sees of a store what the store answers
for that namespace: two stores with the same secrets there, whatever else they hold,
are one and the same to it.  Requests, verdict, conditions, events, metrics and log
are equal as a whole, so there is nothing to compare one by one.

The store is asked in the first stage only, when the connection is resolved, and
`Connection.resolve_congr` is all that there is to say about that.

* `run_congr`: a setup depends on the store through its builder.
* `builder_request_congr`: the builder depends on the answers for one namespace.
* `run_eq_of_sameIn`: a setup depends on what the store holds in that namespace.
-/

namespace IssuerReadiness

namespace Setup

variable {secrets secrets' : SecretStore} {issuer : Issuer}

/-- A setup hands the store to its builder, and looks at it nowhere else. -/
theorem run_congr {s : Setup}
    (h : s.builder (s.request secrets issuer) = s.builder (s.request secrets' issuer))
    (ctx : Context) (recorder : Recorder) (session : Session) :
    s.run secrets ctx issuer recorder session = s.run secrets' ctx issuer recorder session := by
  rw [run_eq, run_eq, build_eq, build_eq, h]

/-- A builder of Venafi clients asks the store for the namespace of the issuer only. -/
theorem builder_request_congr [Json.Library] [Certificate.Library] (s : Setup)
    (userAgent : String) (connectTimeout : Int)
    (h : ∀ name, secrets.get? (issuer.resourceNamespace s.clusterNamespace) name =
      secrets'.get? (issuer.resourceNamespace s.clusterNamespace) name) :
    Venafi.builder userAgent connectTimeout (s.request secrets issuer) =
      Venafi.builder userAgent connectTimeout (s.request secrets' issuer) := by
  unfold Venafi.builder request
  dsimp only
  rw [Connection.resolve_congr h]

/-- **A setup sees the secrets of one namespace.**  Take two stores, each filled with any
secrets in any order, that hold the same secrets in the namespace of an issuer: its own
if it is namespaced, and the one that is set aside for the cluster if not.  A setup with
the one store is in all respects the setup with the other, and so it is the setup with
the secrets of that namespace alone. -/
theorem run_eq_of_sameIn [Json.Library] [Certificate.Library] (s : Setup) (userAgent : String)
    (connectTimeout : Int) (ctx : Context) (issuer : Issuer) (recorder : Recorder)
    (session : Session) (loaded loaded' : List Secret)
    (h : SecretStore.SameIn (issuer.resourceNamespace s.clusterNamespace)
      (SecretStore.addAll {} loaded) (SecretStore.addAll {} loaded')) :
    let run (secrets : SecretStore) : Outcome × Session :=
      ({ s with builder := Venafi.builder userAgent connectTimeout } : Setup).run secrets ctx
        issuer recorder session
    run (.addAll {} loaded) = run (.addAll {} loaded') ∧
      (issuer.kind = .namespaced →
        run (.addAll {} loaded) = run (SecretStore.within (.addAll {} loaded) issuer.ns)) ∧
      (issuer.kind = .cluster →
        run (.addAll {} loaded) = run (SecretStore.within (.addAll {} loaded) s.clusterNamespace)) := by
  have hdistinct : ∀ secrets : List Secret, (SecretStore.addAll {} secrets).Distinct :=
    SecretStore.distinct_addAll SecretStore.distinct_empty
  refine ⟨?_, fun hkind => ?_, fun hkind => ?_⟩
  · refine run_congr (builder_request_congr _ userAgent connectTimeout ?_) ctx recorder session
    exact h.get?_eq (hdistinct loaded) (hdistinct loaded')
  · refine run_congr (builder_request_congr _ userAgent connectTimeout fun name => ?_) ctx recorder
      session
    rw [Issuer.resourceNamespace, hkind]
    exact (SecretStore.get?_within ..).symm
  · refine run_congr (builder_request_congr _ userAgent connectTimeout fun name => ?_) ctx recorder
      session
    rw [Issuer.resourceNamespace, hkind]
    exact (SecretStore.get?_within ..).symm

/-- A setup that counts and logs everything. -/
def watchful (builder : Builder) : Setup where
  backend := "Venafi"
  builder := builder
  metered := true
  logger := { level := .trace }
  clusterNamespace := "cert-manager"

/-- An issuer whose secret is `a/tpp` in the namespace `team`. -/
def teamIssuer : Issuer where
  kind := .namespaced
  name := "issuer"
  ns := "team"
  venafi := some
    { zone := "zone", tpp := some { url := "tpp.example.com", credentials := "a/tpp" } }

/-- A setup with a store of the given secrets; both requests are answered with status
200. -/
def teamRun (loaded : List Secret) : Outcome × Session :=
  (watchful (@Venafi.builder Json.strict Certificate.pem "certissuer/1.0.0" 10)).run
    (.addAll {} loaded) ⟨0, none⟩ teamIssuer { capacity := 1, logger := {} }
    { moment := { now := 0 }, network := { script := [{}, {}] } }

/-- The secret `a/tpp` in the namespace `team`. -/
def teamSecret : Secret := { name := "a/tpp", ns := "team", data := [("access-token", [0x61])] }

/-- The secret `tpp` in the namespace `team/a`. -/
def otherSecret : Secret := { name := "tpp", ns := "team/a", data := [("access-token", [0x62])] }

/-- A secret whose namespace and name are written alike does not take the place of the
one that is meant, which is sent. -/
theorem teamRun_otherSecret :
    SecretStore.SameIn "team" (.addAll {} [teamSecret]) (.addAll {} [teamSecret, otherSecret]) ∧
      teamRun [teamSecret] = teamRun [teamSecret, otherSecret] ∧
      (teamRun [teamSecret, otherSecret]).2.network.requests.map (·.headers) =
        [[], [Bytes.ofString "Authorization: Bearer a",
          Bytes.ofString "Accept: application/json"]] := by
  have hsame : SecretStore.SameIn "team" (.addAll {} [teamSecret])
      (.addAll {} [teamSecret, otherSecret]) := ⟨by decide, by decide⟩
  refine ⟨hsame, ?_, by decide +kernel⟩
  exact (@run_eq_of_sameIn Json.strict Certificate.pem (watchful fun _ => pure none)
    "certissuer/1.0.0" 10 _ teamIssuer _ _ [teamSecret] [teamSecret, otherSecret] hsame).1

end Setup
end IssuerReadiness
