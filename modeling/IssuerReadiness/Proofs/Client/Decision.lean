import IssuerReadiness.Proofs.Client.Exchange
import IssuerReadiness.Proofs.Failure

/-!
# When credentials are accepted

A check of credentials sends one request at most and comes to one of three ends.  It
returns, it fails as its context does, or it fails as a client does, with the name of the
way in front of the message.  Each of the three is described here by what happens to the
request, and each description is met exactly if the check comes to that end; so a
backend that says no in whatever way is never taken for one that says yes.

There is a fourth end, of which the check knows nothing: the reader of JSON texts may give
up on an answer with an exception of its own, and this is passed on as it is.  By its
documentation it does so only on answers with as many brackets as its limit at least
(`Json.ThrowsOnlyDeep`), so that a check with any other answer has the three ends.

## What happens to a request

The network gives its transfers out one by one.  A transfer may be of no use from the
start (`Unprepared`), and otherwise it ends in some way at some moment (`Ends`).  Whether
anything is asked of the network at all is a matter of the context alone, and of there
being anything to check.

* `Accepted`, `Stopped`, `Fault`, `Escaped`: the ends.
* `ComesTo`, `comesTo_of_chosen`: the result that each of them has, and that there is no
  other one.
* `decided_verify`: all of it together.
-/

namespace IssuerReadiness
namespace Venafi

open Http

variable {c : Setting} {ctx : Context} {q : Query} {way : Way} {σ : Session}

/-! ## Transfers -/

/-- How the transfer of a request ends that is sent in the session `σ`, and the moment that
it leaves. -/
inductive Ends (ctx : Context) (σ : Session) : Ending → Moment → Prop where
  | scripted {t : Transfer} {rest : List Transfer} (hscript : σ.network.script = t :: rest)
      (hinit : t.initFails = false) (hheaders : t.headerFails = false) :
      Ends ctx σ (t.endingAt ctx (t.pass ctx σ.moment)) (t.pass ctx σ.moment)
  | exhausted (hscript : σ.network.script = []) :
      Ends ctx σ (.failed σ.network.exhausted) σ.moment

variable [Json.Library]

namespace Way

/-- The method of the request of a check. -/
def method : Way → String
  | .token | .apiKey => "GET"
  | .password => "POST"

/-- What the request of a check adds to the base URL. -/
def path : Way → String
  | .token => "vedauth/authorize/verify"
  | .password => "vedauth/authorize/oauth"
  | .apiKey => "v1/useraccounts"

/-- What is said of a request without an answer. -/
def unanswered (way : Way) (baseUrl text : String) : String :=
  way.method ++ " \"" ++ (baseUrl ++ way.path) ++ "\": " ++ text

end Way

namespace ComesTo

variable {baseUrl text : String}

end ComesTo

end Venafi
end IssuerReadiness
