import IssuerReadiness.Client.Scripted
import IssuerReadiness.Proofs.Client.Exchange
import IssuerReadiness.Proofs.Records

/-!
# Clients take no notice of the ledger

The operations of a client are functions of the whole session, and so they could look at
the lines and the metrics that were written before.  Those of Venafi clients do not, and
neither do those of scripted ones: what they write depends on the moment, the network and
their own parts only.

None of them has a call counted.  Calls are counted where an operation is timed, and
nowhere else.

* `Client.WriteOnly`, `Builder.WriteOnly`: clients and builders that write blindly.
* `Venafi.writeOnly_exchange`, `Venafi.writeOnly_client`: Venafi clients do.
* `BuildScript.writeOnly_builder`: scripted clients do, whatever their scripts say.
-/

namespace IssuerReadiness

/-- All operations of a client are write-only. -/
structure Client.WriteOnly (counting : Bool) (c : Client) : Prop where
  ping : ∀ ctx, IssuerReadiness.WriteOnly counting (c.ping ctx)
  verify : ∀ operation, c.verify? = some operation →
    ∀ ctx, IssuerReadiness.WriteOnly counting (operation ctx)

/-- A builder is write-only, and so are the clients that it builds. -/
structure Builder.WriteOnly (counting : Bool) (b : Builder) : Prop where
  build : ∀ req, IssuerReadiness.WriteOnly counting (b req)
  client : ∀ req σ client, (b req σ).1 = .ok (some client) → client.WriteOnly counting

namespace Venafi

variable {c : Setting} {ctx : Context} {counting : Bool}

theorem writeOnly_nextTransfer : WriteOnly counting nextTransfer := by
  refine .of_silent fun σ l => ?_
  rw [nextTransfer_apply, nextTransfer_apply]
  rfl

/-- What is left of sending a request once its line is written. -/
def transfer (c : Setting) (q : Query) (ctx : Context) (t : Option Http.Transfer) :
    Action Http.Ending := fun s =>
  let request := c.request q (ctx.remaining? s.moment)
  let network := { s.network with requests := s.network.requests ++ [request] }
  match t with
  | none => (.ok (.failed network.exhausted), { s with network := network })
  | some t =>
      let (ending, m) := t.run ctx s.moment
      (.ok ending, { s with network := network, moment := m })

theorem writeOnly_send (c : Setting) (q : Query) (ctx : Context) (t : Option Http.Transfer) :
    WriteOnly counting (send c q ctx t) := by
  have htransfer : WriteOnly counting (transfer c q ctx t) := by
    refine .of_silent fun σ l => ?_
    cases t <;> rfl
  exact htransfer.afterWrite c.logger .debug (q.method ++ " " ++ c.url q)

/-- What is left of an exchange once its answer is judged. -/
def conclude (c : Setting) (q : Query) : Except Failure Http.Response → Action Http.Response
  | .error f => throw f
  | .ok response => do
      Action.log c.logger .debug
        (q.method ++ " " ++ c.url q ++ " -> " ++ toString response.status)
      return response

theorem writeOnly_conclude (c : Setting) (q : Query) (judged : Except Failure Http.Response) :
    WriteOnly counting (conclude c q judged) := by
  cases judged with
  | error f => exact .throw f
  | ok response => exact (WriteOnly.log c.logger .debug _).bind fun _ => .pure response

theorem writeOnly_exchange (c : Setting) (ctx : Context) (q : Query) :
    WriteOnly counting (exchange c ctx q) := by
  refine (WriteOnly.check ctx).bind fun _ => writeOnly_nextTransfer.bind fun t => ?_
  split
  · exact .throw _
  split
  · exact .throw _
  refine (writeOnly_send c q ctx t).bind fun ending => ?_
  -- Of the session, an answer is judged by the moment alone.
  have hjudged : ∀ m, WriteOnly counting (conclude c q (judge c q ctx m ending)) :=
    fun m => writeOnly_conclude c q _
  exact WriteOnly.ofMoment hjudged

theorem writeOnly_ping (c : Setting) (ctx : Context) : WriteOnly counting (ping c ctx) := by
  refine (writeOnly_exchange c ctx _).bind fun response => ?_
  split
  · exact .pure ()
  · exact .throw _

theorem writeOnly_authenticate (c : Setting) (ctx : Context) (q : Query) :
    WriteOnly counting (authenticate c ctx q) := by
  refine (writeOnly_exchange c ctx q).bind fun response => ?_
  cases requireOk response with
  | error f => exact .throw f
  | ok _ => exact .pure response

theorem writeOnly_verify [Json.Library] (c : Setting) (ctx : Context) :
    WriteOnly counting (verify c ctx) := by
  rcases unset_or_chosen c.connection with h | ⟨way, h⟩
  · rw [verify_of_unset h]
    exact .throw _
  · rw [verify_of_chosen h]
    exact ((writeOnly_authenticate c ctx _).bind fun _ => .ofExcept _).withinClient _

theorem writeOnly_client [Json.Library] (c : Setting) : (client c).WriteOnly counting where
  ping := writeOnly_ping c
  verify := fun operation hoperation ctx => by
    cases hoperation
    exact writeOnly_verify c ctx

end Venafi

/-! ## Scripted clients -/

namespace Act

theorem writeOnly_perform (act : Act) (ctx : Context) {counting : Bool} :
    WriteOnly counting (act.perform ctx) := by
  refine .of_silent fun σ l => ?_
  unfold perform
  cases act.failure <;> rfl

end Act

theorem Action.note_apply (call : Call) (σ : Session) :
    Action.note call σ = (.ok (), { σ with calls := σ.calls ++ [call] }) := rfl

theorem Action.writeOnly_note (call : Call) {counting : Bool} :
    WriteOnly counting (Action.note call) :=
  .of_silent fun _ _ => rfl

theorem ClientScript.writeOnly_client (script : ClientScript) {client : Client} {counting : Bool}
    (h : script.client? = some client) : client.WriteOnly counting := by
  have hact : ∀ call (act : Act) ctx, WriteOnly counting (do
      Action.note call
      act.perform ctx : Action Unit) :=
    fun call act ctx => (Action.writeOnly_note call).bind fun _ => act.writeOnly_perform ctx
  unfold client? at h
  cases hshape : script.shape with
  | verifying =>
    rw [hshape] at h
    cases h
    exact ⟨hact .ping script.ping, fun _ hoperation => by cases hoperation; exact hact .verify _⟩
  | pingOnly =>
    rw [hshape] at h
    cases h
    exact ⟨hact .ping script.ping, nofun⟩
  | missing =>
    rw [hshape] at h
    cases h

theorem BuildScript.writeOnly_builder (script : BuildScript) (hbare : script.instrument = false)
    (ctx : Context) {counting : Bool} : (script.builder ctx).WriteOnly counting := by
  have hbuilder : ∀ req, script.builder ctx req = (do
      Action.note (.build req.ns req.clusterNamespace req.issuer.name req.metered)
      script.build.perform ctx
      return script.client.client? : Action (Option Client)) := by
    intro req
    unfold builder
    rw [hbare]
    rfl
  refine ⟨fun req => ?_, fun req σ client hclient => ?_⟩
  · rw [hbuilder]
    exact (Action.writeOnly_note _).bind fun _ =>
      (script.build.writeOnly_perform ctx).bind fun _ => .pure _
  · refine script.client.writeOnly_client ?_
    rw [hbuilder, Action.bind_of_ok (Action.note_apply _ σ)] at hclient
    rcases hbuild : script.build.perform ctx _ with ⟨f | x, τ⟩
    · rw [Action.bind_of_error hbuild] at hclient
      cases hclient
    · rw [Action.bind_of_ok hbuild] at hclient
      exact Except.ok.inj hclient

end IssuerReadiness
