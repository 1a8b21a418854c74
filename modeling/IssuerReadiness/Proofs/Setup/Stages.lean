import IssuerReadiness.Proofs.Action
import IssuerReadiness.Setup

/-!
# The stages of a setup

A setup goes from stage to stage, and writes a line before each of them.  Each stage is
an operation with what goes on from its result: the verdict of a failure, or the next
stage.  The equations below say so, and they are all that a proof about setups has to
know of the way in which the stages are strung together.

* `Setup.opened`, `Setup.built`, `Setup.reached`: the session in which a stage starts.
* `run_eq`, `ping_eq`, `verify_eq`, `verify_of_none`: each stage and what follows it.
* `build_eq`, `guarded_eq`: the operations of the stages start with a look at the context.
-/

namespace IssuerReadiness
namespace Setup

/-- The session in which a setup starts its first stage. -/
def opened (s : Setup) (issuer : Issuer) (σ : Session) : Session :=
  σ.write s.logger .debug
    ("Setting up " ++ s.backend ++ " issuer " ++ issuer.ns ++ "/" ++ issuer.name ++
      " (secrets namespace " ++ issuer.resourceNamespace s.clusterNamespace ++ ")")

/-- The session in which a setup starts its second stage, after the first left `σ`. -/
def built (s : Setup) (issuer : Issuer) (σ : Session) : Session :=
  σ.write s.logger .debug ("Client built for issuer " ++ issuer.name)

/-- The session in which a setup starts its third stage, after the second left `σ`. -/
def reached (s : Setup) (issuer : Issuer) (σ : Session) : Session :=
  σ.write s.logger .debug (s.backend ++ " API reachable for issuer " ++ issuer.name)

/-- The session in which a setup that has checked the credentials succeeds. -/
def checked (s : Setup) (issuer : Issuer) (σ : Session) : Session :=
  σ.write s.logger .debug ("Credentials verified for issuer " ++ issuer.name)

/-- The session in which a setup succeeds whose client cannot check credentials. -/
def skipped (s : Setup) (σ : Session) : Session :=
  σ.write s.logger .debug "Client does not support credential verification, skipping"

variable {s : Setup} {secrets : SecretStore} {ctx : Context} {issuer : Issuer}
  {recorder : Recorder} {client : Client}

/-! ## What goes on from a stage -/

theorem run_eq (σ : Session) :
    s.run secrets ctx issuer recorder σ =
      (s.build secrets ctx issuer).onResult (s.fail issuer recorder .build)
        (fun client τ => s.ping ctx issuer recorder client (s.built issuer τ))
        (s.opened issuer σ) := by
  unfold opened
  rw [run]
  generalize σ.write s.logger .debug _ = σ'
  rcases h : s.build secrets ctx issuer σ' with ⟨_ | _, τ⟩
  · rw [Action.onResult_of_error h]
  · rw [Action.onResult_of_ok h]
    rfl

theorem ping_eq :
    s.ping ctx issuer recorder client =
      (guarded ctx client.ping).onResult (s.fail issuer recorder .ping) fun _ τ =>
        s.verify ctx issuer recorder client (s.reached issuer τ) := by
  funext σ
  rw [ping]
  rcases h : guarded ctx client.ping σ with ⟨_ | _, τ⟩
  · rw [Action.onResult_of_error h]
  · rw [Action.onResult_of_ok h]
    rfl

theorem verify_eq {operation : Context → Action Unit} (hc : client.verify? = some operation) :
    s.verify ctx issuer recorder client =
      (guarded ctx operation).onResult (s.fail issuer recorder .verify) fun _ τ =>
        s.succeed issuer recorder (s.checked issuer τ) := by
  funext σ
  rw [verify, hc]
  dsimp only
  rcases h : guarded ctx operation σ with ⟨_ | _, τ⟩
  · rw [Action.onResult_of_error h]
  · rw [Action.onResult_of_ok h]
    rfl

theorem verify_of_none (hc : client.verify? = none) (σ : Session) :
    s.verify ctx issuer recorder client σ = s.succeed issuer recorder (s.skipped σ) := by
  rw [verify, hc]
  rfl

/-! ## The operations of the stages -/

/-- What becomes of the answer of a builder. -/
def accept : Option Client → Action Client
  | some client => return client
  | none => throw (.ofClient "client builder returned no client")

theorem build_eq (s : Setup) (secrets : SecretStore) (ctx : Context) (issuer : Issuer) :
    s.build secrets ctx issuer =
      (Action.check ctx >>= fun _ => s.builder (s.request secrets issuer) >>= accept) := by
  unfold build
  congr 1

theorem guarded_eq (ctx : Context) (operation : Context → Action Unit) :
    guarded ctx operation = (Action.check ctx >>= fun _ => operation ctx >>= pure) := by
  simp only [bind_pure]
  rfl

/-! ## Other builders -/

/-! Only the first stage looks at the builder. -/

theorem opened_withBuilder (s : Setup) (builder : Builder) (σ : Session) :
    ({ s with builder := builder } : Setup).opened issuer σ = s.opened issuer σ := rfl

theorem built_withBuilder (s : Setup) (builder : Builder) (σ : Session) :
    ({ s with builder := builder } : Setup).built issuer σ = s.built issuer σ := rfl

theorem fail_withBuilder (s : Setup) (builder : Builder) (stage : Stage) :
    ({ s with builder := builder } : Setup).fail issuer recorder stage =
      s.fail issuer recorder stage := rfl

theorem ping_withBuilder (s : Setup) (builder : Builder) (client : Client) :
    ({ s with builder := builder } : Setup).ping ctx issuer recorder client =
      s.ping ctx issuer recorder client := rfl

end Setup
end IssuerReadiness
