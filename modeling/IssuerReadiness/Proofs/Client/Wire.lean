import IssuerReadiness.Proofs.BaseUrl
import IssuerReadiness.Proofs.Client.Exchange
import IssuerReadiness.Proofs.Connection

/-!
# Requests as they go over the wire

What a client sends is spelled out here: the request that asks whether a backend is there,
and the requests that check credentials, of which there are three kinds.

A header, like the user agent, is handed over as zero-terminated text, so that a token with
a NUL in it is sent up to there.  The URL is free of NULs, since a base URL is, and a body
may have as many as it likes.

* `Connection.wired`: what all requests of a connection have in common.
* `Connection.pinged`, `Connection.Verification`: the requests.
* `request_eq_wired`: the requests of a client are such.
* `asks_verify`: which query checks the credentials of a connection.
-/

namespace IssuerReadiness

open Http

/-! ## Requests -/

namespace Connection

/-- A request to the backend of a connection that is sent at the moment `m`.  The time
that it may take is limited if and only if the context has a deadline. -/
def wired (k : Connection) (connectTimeout : Int) (ctx : Context) (m : Moment)
    (method path : String) (headers : List Bytes) (body : Option Posted) : Request where
  method := method
  url := k.baseUrl ++ path
  userAgent := Text.beforeNul k.userAgent
  connectTimeout := connectTimeout
  timeoutMs := ctx.deadline.map fun d => max 1 ((d - m.now) / 1000000)
  headers := headers
  body := body
  caBundle := k.caBundle

/-- The request that asks whether the backend of a connection is there. -/
def pinged (k : Connection) (connectTimeout : Int) (ctx : Context) (m : Moment) : Request :=
  k.wired connectTimeout ctx m "GET"
    (match k.connector with
      | .tpp => "vedsdk/"
      | .cloud => "") [] none

/-- The status with which a backend that is there answers. -/
def IsThere (k : Connection) (status : Int) : Prop :=
  match k.connector with
  | .tpp => status = 200
  | .cloud => status < 500

/-- The ways of checking the credentials of a connection: method, path, headers and body
of the request. -/
inductive Verification (k : Connection) :
    String → String → List Bytes → Option Posted → Prop where
  | token (service : k.connector = .tpp) (given : k.accessToken ≠ []) :
      Verification k "GET" "vedauth/authorize/verify"
        [Bytes.ofString "Authorization: Bearer " ++ k.accessToken.beforeNul,
          Bytes.ofString "Accept: application/json"] none
  | password (service : k.connector = .tpp) (tokenless : k.accessToken = [])
      (named : k.username ≠ []) (given : k.password ≠ []) :
      Verification k "POST" "vedauth/authorize/oauth"
        [Bytes.ofString "Content-Type: application/json",
          Bytes.ofString "Accept: application/json"]
        (some (Keyed.ofList
          [("client_id", Bytes.ofString "cert-manager.io"), ("username", k.username),
            ("password", k.password), ("scope", Bytes.ofString "certificate:manage")]))
  | apiKey (service : k.connector = .cloud) (given : k.apiKey ≠ []) :
      Verification k "GET" "v1/useraccounts"
        [Bytes.ofString "tppl-api-key: " ++ k.apiKey.beforeNul,
          Bytes.ofString "Accept: application/json"] none

/-- No path of such a request has a NUL. -/
theorem Verification.notMem_path {k : Connection} {method path : String} {headers : List Bytes}
    {body : Option Posted} (h : k.Verification method path headers body) :
    '\x00' ∉ path.toList := by
  cases h <;> decide

/-! Base URLs. -/

variable {issuer : Issuer} {userAgent : String} {k : Connection}

theorem Resolved.secure (h : Resolved issuer userAgent k) :
    "https://".toList <+: k.baseUrl.toList := by
  obtain ⟨venafi, url, -, -, hurl⟩ := h.address
  exact BaseUrl.secureScheme_isPrefix_of_normalize hurl

theorem Resolved.notMem_baseUrl (h : Resolved issuer userAgent k) :
    '\x00' ∉ k.baseUrl.toList := by
  obtain ⟨venafi, url, -, -, hurl⟩ := h.address
  exact BaseUrl.notMem_of_normalize hurl (by decide) (by decide) (by decide)

end Connection

namespace Venafi

variable {c : Setting} {q : Query}

/-! ## The requests of a client -/

/-- The time that a transfer may take: what is left until the deadline in milliseconds,
one at least. -/
theorem timeLimit_eq (ctx : Context) (m : Moment) :
    (ctx.remaining? m).map (max 1 ·) =
      ctx.deadline.map fun d => max 1 ((d - m.now) / 1000000) := by
  rw [Context.remaining?, Option.map_map]
  refine congrArg (Option.map · ctx.deadline) (funext fun d => ?_)
  show max 1 (max 0 ((d - m.now).tdiv 1000000)) = max 1 ((d - m.now) / 1000000)
  rcases Int.le_total 0 (d - m.now) with hleft | hover
  · rw [Int.tdiv_eq_ediv_of_nonneg hleft]
    omega
  · have hnone : 0 ≤ (-(d - m.now)).tdiv 1000000 :=
      Int.tdiv_nonneg (Int.neg_nonneg_of_nonpos hover) (by decide)
    rw [Int.neg_tdiv] at hnone
    omega

/-- A request of a client as it goes over the wire, if its URL is free of NULs. -/
theorem request_eq_wired (hurl : '\x00' ∉ c.connection.baseUrl.toList)
    (hpath : '\x00' ∉ q.path.toList) (ctx : Context) (m : Moment) :
    c.request q (ctx.remaining? m) =
      c.connection.wired c.connectTimeout ctx m q.method q.path (q.headers.map Bytes.beforeNul)
        q.body := by
  have hwhole : Text.beforeNul (c.url q) = c.connection.baseUrl ++ q.path := by
    refine Text.beforeNul_of_notMem ?_
    rw [Setting.url, String.toList_append, List.mem_append]
    exact fun h => h.elim hurl hpath
  rw [Setting.request, Connection.wired, hwhole, timeLimit_eq]

theorem request_pingQuery (hurl : '\x00' ∉ c.connection.baseUrl.toList) (ctx : Context)
    (m : Moment) : c.request (pingQuery c.connection.connector) (ctx.remaining? m) =
      c.connection.pinged c.connectTimeout ctx m := by
  have hpath : ∀ connector, '\x00' ∉ (pingQuery connector).path.toList := by
    intro connector
    cases connector <;> decide
  rw [request_eq_wired hurl (hpath _), Connection.pinged]
  cases c.connection.connector <;> rfl

theorem isThere_of_isAlive {k : Connection} {status : Int}
    (h : isAlive k.connector status = true) : k.IsThere status := by
  unfold Connection.IsThere
  cases hconnector : k.connector with
  | tpp =>
    rw [hconnector] at h
    exact beq_iff_eq.1 h
  | cloud =>
    rw [hconnector] at h
    exact of_decide_eq_true h

/-- A header whose value has a NUL is sent up to there. -/
theorem map_beforeNul_headers {label : String} (hlabel : ∀ b ∈ Bytes.ofString label, b ≠ 0)
    (value : Bytes) :
    [Bytes.ofString label ++ value, acceptJson].map Bytes.beforeNul =
      [Bytes.ofString label ++ value.beforeNul, acceptJson] := by
  rw [List.map_cons, Bytes.beforeNul_append hlabel]
  rfl

theorem verification_tokenQuery {k : Connection} (service : k.connector = .tpp)
    (given : k.accessToken ≠ []) :
    k.Verification "GET" "vedauth/authorize/verify"
      ((tokenQuery k.accessToken).headers.map Bytes.beforeNul) none := by
  rw [tokenQuery, map_beforeNul_headers (by decide +kernel)]
  exact .token service given

theorem verification_apiKeyQuery {k : Connection} (service : k.connector = .cloud)
    (given : k.apiKey ≠ []) :
    k.Verification "GET" "v1/useraccounts"
      ((apiKeyQuery k.apiKey).headers.map Bytes.beforeNul) none := by
  rw [apiKeyQuery, map_beforeNul_headers (by decide +kernel)]
  exact .apiKey service given

theorem verification_query {k : Connection} {way : Way} (h : Chosen k way)
    (hkey : k.connector = .cloud → k.apiKey ≠ []) :
    k.Verification (way.query k).method (way.query k).path
      ((way.query k).headers.map Bytes.beforeNul) (way.query k).body := by
  cases h with
  | token service given => exact verification_tokenQuery service given
  | password service tokenless named given => exact .password service tokenless named given
  | apiKey service => exact verification_apiKeyQuery service (hkey service)

/-- The credentials of a connection are checked in one of the ways, or there is nothing
to check and nothing is asked. -/
theorem asks_verify [Json.Library] (c : Setting) (ctx : Context)
    (hkey : c.connection.connector = .cloud → c.connection.apiKey ≠ []) :
    (∃ q : Query, c.connection.Verification q.method q.path (q.headers.map Bytes.beforeNul) q.body ∧
        Asks c ctx q (fun _ status => status = 200) (verify c ctx)) ∨
      ∃ f, verify c ctx = throw f := by
  rcases unset_or_chosen c.connection with h | ⟨way, h⟩
  · exact Or.inr ⟨_, verify_of_unset h ctx⟩
  · exact Or.inl ⟨_, verification_query h hkey, asks_verify_of_chosen h ctx⟩

end Venafi
end IssuerReadiness
