import IssuerReadiness.Proofs.Setup.Calls
import IssuerReadiness.Proofs.Setup.Course
import IssuerReadiness.Proofs.Setup.Isolation

/-!
# Instrumentation is transparent

An instrumented client stands in the place of the client inside it, and nobody but the
metrics and the log should notice.  This has two sides.

## One call

Each call of an instrumented client is one call of the client inside, with the same
context, and it ends as that call ends, with the very same failure if it fails.  It adds
one observation to the ledger and does nothing else.  This holds of every client, which
may do to the session what it likes (`Timed`, `Client.Transparent`).

## A whole setup

A setup whose clients are instrumented ends as the setup without, and everything that it
leaves is the same but for the ledger (`Setup.Beside`).  This takes clients that do not
look at the ledger themselves, since one that did could tell whether its last call was
counted.  What a client does apart from that, which time it takes, whether it cancels its
context, and how it ends, is up to the client.

To see which calls reach the client inside, the same is said of the setup whose calls are
noted in the journal.

* `Client.transparent`: every call.
* `transparent_run`: every setup.
-/

namespace IssuerReadiness

/-- The operation `outer` is the operation `inner`, called once with the same context; the
call is put on record, and that is all. -/
def Timed (name : String) (metered : Bool) (logger : Logger)
    (inner outer : Context → Action Unit) : Prop :=
  ∀ ctx σ, outer ctx σ =
    ((inner ctx σ).1, (inner ctx σ).2.withLedger ((inner ctx σ).2.ledger.add
      (Records.ofCalls metered logger [Action.observation name (inner ctx) σ])))

namespace Client

/-- An instrumented client has the operations of the client inside, and each of its calls
is one call of these. -/
structure Transparent (c : Client) (metered : Bool) (logger : Logger) : Prop where
  canVerify : (c.instrument metered logger).canVerify = c.canVerify
  ping : Timed "ping" metered logger c.ping (c.instrument metered logger).ping
  verify : ∀ inner, c.verify? = some inner → ∃ outer,
    (c.instrument metered logger).verify? = some outer ∧
      Timed "verifyCredentials" metered logger inner outer
  pingOnce : ∀ ctx σ,
    ((c.journaled.instrument metered logger).ping ctx σ).2.calls = σ.calls ++ [.ping]
  verifyOnce : ∀ outer, (c.journaled.instrument metered logger).verify? = some outer →
    ∀ ctx σ, (outer ctx σ).2.calls = σ.calls ++ [.verify]

theorem timed (name : String) (metered : Bool) (logger : Logger) (inner : Context → Action Unit) :
    Timed name metered logger inner fun ctx => (inner ctx).timed name metered logger :=
  fun ctx σ => Action.timed_apply name metered logger (inner ctx) σ

/-- What is put on record is not in the journal. -/
theorem Timed.calls {name : String} {metered : Bool} {logger : Logger}
    {inner outer : Context → Action Unit} (h : Timed name metered logger inner outer)
    (ctx : Context) (σ : Session) : (outer ctx σ).2.calls = (inner ctx σ).2.calls := by
  rw [h]
  rfl

theorem transparent (c : Client) (metered : Bool) (logger : Logger) :
    c.Transparent metered logger where
  canVerify := canVerify_instrument c metered logger
  ping := timed pingOperation metered logger c.ping
  verify := fun inner hinner => by
    refine ⟨_, ?_, timed verifyOperation metered logger inner⟩
    rw [instrument, hinner]
    rfl
  pingOnce := fun ctx σ => Timed.calls (timed pingOperation metered logger c.journaled.ping) ctx σ
  verifyOnce := fun outer houter ctx σ => by
    obtain ⟨inner, hinner, rfl⟩ := Option.map_eq_some_iff.1 houter
    obtain ⟨own, -, rfl⟩ := Option.map_eq_some_iff.1 hinner
    let noted : Context → Action Unit := fun ctx => (own ctx).journaled .verify
    exact Timed.calls (timed verifyOperation metered logger noted) ctx σ

/-- A client that does not look at the ledger does not if its calls are noted in the
journal. -/
theorem WriteOnly.journaled {c : Client} {counting : Bool} (h : c.WriteOnly counting) :
    c.journaled.WriteOnly counting where
  ping := fun ctx => (h.ping ctx).journaled .ping
  verify := fun operation hoperation ctx => by
    obtain ⟨own, hown, rfl⟩ := Option.map_eq_some_iff.1 hoperation
    exact (h.verify own hown ctx).journaled .verify

end Client

theorem Builder.WriteOnly.journaled {b : Builder} {counting : Bool} (h : b.WriteOnly counting) :
    b.journaled.WriteOnly counting where
  build := fun req => by
    rw [Builder.journaled, map_eq_pure_bind]
    exact ((h.build req).journaled req.call).bind fun _ => .pure _
  client := fun req σ client hclient => by
    rw [Builder.journaled, map_eq_pure_bind] at hclient
    rcases hb : b req σ with ⟨f | client?, τ⟩
    · have hcall : (b req).journaled req.call σ =
          (.error f, { τ with calls := σ.calls ++ [req.call] }) := by
        rw [Action.journaled, hb]
      rw [Action.bind_of_error hcall] at hclient
      cases hclient
    · have hcall : (b req).journaled req.call σ =
          (.ok client?, { τ with calls := σ.calls ++ [req.call] }) := by
        rw [Action.journaled, hb]
      rw [Action.bind_of_ok hcall] at hclient
      obtain ⟨own, rfl, rfl⟩ := Option.map_eq_some_iff.1 (Except.ok.inj hclient)
      exact (h.client req σ own (by rw [hb])).journaled

namespace Setup

/-- Of two runs that start in the session `σ` one leaves `τ` and the other `τ'`.  The two
differ in the ledger alone, and there the other has the calls `noted` on record besides
what the one has. -/
structure Beside (metered : Bool) (logger : Logger) (noted : List Observation)
    (σ τ τ' : Session) : Prop where
  rest : τ' = τ.withLedger τ'.ledger
  records : ∃ r r', τ.ledger = σ.ledger.add r ∧ τ'.ledger = σ.ledger.add r' ∧
    Records.Adds metered logger noted r r'

/-- A run beside another comes to the same, and leaves what lies beside. -/
theorem beside_of_shadows {metered : Bool} {logger : Logger} {ρ : Type}
    {f f' : Session → ρ × Session} {noted : Session → List Observation}
    (h : Shadows metered logger f f' noted) (σ : Session) :
    (f' σ).1 = (f σ).1 ∧ Beside metered logger (noted σ) σ (f σ).2 (f' σ).2 := by
  obtain ⟨r, r', hr, hr', hadds⟩ := h σ
  have hplain : (f σ).2 = (f σ).2.withLedger (σ.ledger.add r) := congrArg Prod.snd (hr σ.ledger)
  have hother : f' σ = ((f σ).1, (f σ).2.withLedger (σ.ledger.add r')) := hr' σ.ledger
  rw [hother]
  exact ⟨rfl, rfl, r, r', congrArg Session.ledger hplain, rfl, hadds⟩

/-- **Instrumentation is transparent.**  Whatever client is instrumented, with whatever
metrics and logger, each of its calls is one call of the client inside and ends alike.  And
whatever a builder and its clients do that do not look at the ledger, a setup whose clients
are instrumented comes to the same verdict, writes the same conditions, records the same
events and leaves the same session, but for the two calls that are put on record.  The
setup whose calls are noted is such a setup too, so that the same calls are made on the
clients inside. -/
theorem transparent_run (s : Setup) (hs : s.builder.WriteOnly true) (metered : Bool)
    (logger : Logger) (secrets : SecretStore) (ctx : Context) (issuer : Issuer)
    (recorder : Recorder) (σ : Session) :
    (∀ c : Client, c.Transparent metered logger) ∧
      ∀ t : Setup, t = s ∨ t = s.journaled →
        let watched : Setup := { t with builder := t.builder.instrumented metered logger }
        let r := t.run secrets ctx issuer recorder σ
        let r' := watched.run secrets ctx issuer recorder σ
        r'.1 = r.1 ∧ Beside metered logger (t.calls secrets ctx issuer σ) σ r.2 r'.2 := by
  refine ⟨fun c => c.transparent metered logger, fun t ht => ?_⟩
  have hbuilder : t.builder.WriteOnly true := by
    rcases ht with rfl | rfl
    · exact hs
    · exact hs.journaled
  exact beside_of_shadows (shadows_run t hbuilder metered logger secrets ctx issuer recorder) σ

/-- A setup whose client takes five microseconds for a ping, and three to cancel its
context and fail without a word when it is asked for its credentials. -/
def curtSetup : Setup where
  backend := "Venafi"
  builder := ({ client :=
    { ping := { advance := 5 }
      verify := { advance := 3, cancels := true, failure := some .nameless } } } :
    BuildScript).builder ⟨0, none⟩
  metered := false
  logger := {}
  clusterNamespace := "cert-manager"

/-- The verdict is the same with the client instrumented, the same calls are made, and two
of them are counted. -/
theorem transparent_curtRun :
    let σ : Session := { moment := { now := 0 } }
    let run (s : Setup) := s.run {} ⟨0, none⟩ teamIssuer { capacity := 1 } σ
    let watched : Setup :=
      { curtSetup with builder := curtSetup.builder.instrumented true { level := .debug } }
    curtSetup.builder.WriteOnly true ∧ (run watched).1 = (run curtSetup).1 ∧
      (run watched).2.calls = (run curtSetup).2.calls ∧
      (run watched).2.calls = [.build "team" "cert-manager" "issuer" false, .ping, .verify] ∧
      (run watched).2.metrics.get "ping" = ⟨1, 0, 5, 5⟩ ∧
      (run watched).2.metrics.get "verifyCredentials" = ⟨1, 1, 3, 3⟩ ∧
      (run curtSetup).2.metrics = {} := by
  intro σ run watched
  have hs : curtSetup.builder.WriteOnly true := BuildScript.writeOnly_builder _ rfl _
  obtain ⟨houtcome, hbeside⟩ := (transparent_run curtSetup hs true { level := .debug } {} ⟨0, none⟩
    teamIssuer { capacity := 1 } σ).2 curtSetup (Or.inl rfl)
  have hcalls : (run watched).2.calls = (run curtSetup).2.calls :=
    (congrArg Session.calls hbeside.rest).trans rfl
  exact ⟨hs, houtcome, hcalls, by decide +kernel, by decide +kernel, by decide +kernel,
    by decide +kernel⟩

end Setup
end IssuerReadiness
