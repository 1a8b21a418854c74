import IssuerReadiness.Certificate.Bundle
import IssuerReadiness.Json.Parser
import IssuerReadiness.Proofs.Check.Outcome
import IssuerReadiness.Proofs.Check.Output

/-!
# What the exit code says

Whoever calls the command sees its exit code and what is on standard output, and relies on that
they agree.  They do (`Check.exitCode_run`), but for one thing: the object that is printed is not
all that is there.  A script that expects no output where nothing was set up is wrong when there
was something in the environment to warn of (`Check.exitCode_misconfiguredRun`).
-/

namespace IssuerReadiness
namespace Check

section Command

variable [Json.Library] [Certificate.Library]

/-- **What the exit code says.**  No failure escapes from the command, whatever its
arguments, its environment, the files and the network are.  Its exit code is 2 exactly if
there is nothing to set up, and then nothing is sent and no object is printed.  Otherwise
it is 0 or 1, an issuer was read and set up, and the object that is printed fits the code.
That the environment has no part in this is because it always leaves room for an event.

The environment has a part in what else is on standard output.  What it does not say properly is
told there, and if the file of the log cannot be opened then everything is.  So a run that
finds nothing to set up is silent only if its arguments are not counted right, or if its log is
started and there is nothing to warn of. -/
theorem exitCode_run (args : List String) (setting : String → Option String)
    (file? : String → Option Bytes) (fault? : String → Option String) (before : Session)
    (hlog : before.log = {}) :
    let settings := (Settings.ofEnvironment setting).1
    let warnings := (Settings.ofEnvironment setting).2
    let r := run args setting file? fault? before
    r.1.escaped = none ∧
      (1 ≤ settings.eventCapacity ∧ settings.eventCapacity ≤ 10000) ∧
      (r.1.exitCode = 2 ↔ Unusable file? settings args) ∧
      (Unusable file? settings args → Refused before r ∧
        (Silent r ↔ Miscalled args ∨ logFault? settings fault? = none ∧ warnings = [])) ∧
      (¬ Unusable file? settings args → (r.1.exitCode = 0 ∨ r.1.exitCode = 1) ∧
        ∃ issuer secrets, Loaded file? settings args issuer secrets ∧
          Performed settings issuer secrets before r) ∧
      Overheard args settings warnings fault? r.2.log := by
  intro settings warnings r
  have hfinished : Finished file? settings args before r :=
    finished_run setting file? fault? before args
  have hheard : Overheard args settings warnings fault? r.2.log :=
    overheard_run setting file? fault? before args hlog
  have hcapacity := Settings.bounds_eventCapacity setting
  cases hfinished with
  | refused hunusable hescaped hrefused =>
    exact ⟨hescaped, hcapacity, iff_of_true hrefused.exitCode hunusable,
      fun _ => ⟨hrefused, hheard.silent_iff hrefused.output⟩, fun h => absurd hunusable h, hheard⟩
  | performed hloaded hescaped hperformed =>
    have husable := hloaded.not_unusable
    have hcode := hperformed.exitCode
    have hnotTwo : r.1.exitCode ≠ 2 := by
      rcases hcode with hcode | hcode <;> simp [hcode]
    exact ⟨hescaped, hcapacity, iff_of_false hnotTwo husable, fun h => absurd h husable,
      fun _ => ⟨hcode, _, _, hloaded, hperformed⟩, hheard⟩

end Command

/-- A directory with the manifests of two issuers, of which one names no backend and the other
one the cloud service, and with the key for the cloud service. -/
def exampleFile (path : String) : Option Bytes :=
  if path = "bare.json" then
    some (Bytes.ofString "\x7b\"kind\":\"ClusterIssuer\",\"metadata\":\x7b\"name\":\"a\"\x7d\x7d")
  else if path = "cloud.json" then
    some (Bytes.ofString ("\x7b\"kind\":\"ClusterIssuer\",\"metadata\":\x7b\"name\":\"a\"\x7d," ++
      "\"spec\":\x7b\"venafi\":\x7b\"zone\":\"z\",\"cloud\":\x7b\"apiTokenSecretRef\":" ++
      "\x7b\"name\":\"key\"\x7d\x7d\x7d\x7d\x7d"))
  else if path = "key.json" then
    some (Bytes.ofString ("\x7b\"metadata\":\x7b\"name\":\"key\"\x7d," ++
      "\"stringData\":\x7b\"api-key\":\"k\"\x7d\x7d"))
  else none

/-- A session in which every request is answered with status 200, twice at most. -/
def exampleSession : Session :=
  { moment := { now := 0 }, network := { script := [{}, {}] } }

/-- The command in that directory and in such a session, with this environment. -/
def exampleRun (setting : String → Option String) (args : List String) : Result × Session :=
  @run Json.strict Certificate.pem args setting exampleFile (fun _ => none) exampleSession

/-- All three exit codes occur: the issuer of the cloud service can be used, the one without a
backend cannot, and with a file of secrets that is not there, nothing is done or printed. -/
theorem exitCode_exampleRun :
    (exampleRun (fun _ => none) ["cloud.json", "key.json"]).1.exitCode = 0 ∧
      (∃ issuer secrets, @Performed Json.strict Certificate.pem
        (Settings.ofEnvironment fun _ => none).1 issuer secrets exampleSession
        (exampleRun (fun _ => none) ["cloud.json", "key.json"])) ∧
      (exampleRun (fun _ => none) ["bare.json"]).1.exitCode = 1 ∧
      Refused exampleSession (exampleRun (fun _ => none) ["bare.json", "none.json"]) ∧
      Silent (exampleRun (fun _ => none) ["bare.json", "none.json"]) := by
  have hzero : (exampleRun (fun _ => none) ["cloud.json", "key.json"]).1.exitCode = 0 := by
    decide +kernel
  have hone : (exampleRun (fun _ => none) ["bare.json"]).1.exitCode = 1 := by decide +kernel
  have hcloud := @exitCode_run Json.strict Certificate.pem ["cloud.json", "key.json"]
    (fun _ => none) exampleFile (fun _ => none) exampleSession rfl
  have hnone := @exitCode_run Json.strict Certificate.pem ["bare.json", "none.json"]
    (fun _ => none) exampleFile (fun _ => none) exampleSession rfl
  dsimp only at hcloud hnone
  unfold exampleRun at hzero hone ⊢
  obtain ⟨-, -, hcode, -, hperformed, -⟩ := hcloud
  obtain ⟨-, -, -, hrefused, -, -⟩ := hnone
  have husable : ¬ @Unusable Json.strict exampleFile (Settings.ofEnvironment fun _ => none).1
      ["cloud.json", "key.json"] :=
    fun h => absurd (hzero.symm.trans (hcode.2 h)) (by decide)
  obtain ⟨-, issuer, secrets, -, hdone⟩ := hperformed husable
  have hmissing : @Unusable Json.strict exampleFile (Settings.ofEnvironment fun _ => none).1
      ["bare.json", "none.json"] := by
    let _ := Json.strict
    exact .secretsFile (by decide)
  obtain ⟨hleft, hsilent⟩ := hrefused hmissing
  have hstarted : logFault? (Settings.ofEnvironment fun _ => none).1 (fun _ => none) = none := rfl
  have hquiet : (Settings.ofEnvironment fun _ => none).2 = [] := rfl
  exact ⟨hzero, ⟨issuer, secrets, hdone⟩, hone, hleft, hsilent.2 (Or.inr ⟨hstarted, hquiet⟩)⟩

/-- An environment with a timeout that is no number. -/
def wrongTimeout (name : String) : Option String :=
  if name = "SETUP_TIMEOUT_SECONDS" then some "abc" else none

/-- In such an environment, nothing is set up for want of a manifest, and a line is on
standard output. -/
theorem exitCode_misconfiguredRun :
    let r := exampleRun wrongTimeout ["none.json"]
    r.1.exitCode = 2 ∧ r.1.output = none ∧ ¬ Silent r ∧
      r.2.log.linesTo .stdout =
        [⟨.warn, "", "Invalid integer env value 'abc', using default 30", [.stdout]⟩] := by
  have hlines : (exampleRun wrongTimeout ["none.json"]).2.log.linesTo .stdout =
      [⟨.warn, "", "Invalid integer env value 'abc', using default 30", [.stdout]⟩] := by
    decide +kernel
  refine ⟨by decide +kernel, by decide +kernel, fun hsilent => ?_, hlines⟩
  cases hlines.symm.trans hsilent.log

end Check
end IssuerReadiness
