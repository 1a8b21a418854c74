import Mathlib.Data.List.Forall2
import IssuerReadiness.Check
import IssuerReadiness.Proofs.Manifest.Faults
import IssuerReadiness.Proofs.Settings
import IssuerReadiness.Proofs.Setup.Verdict

/-!
# What a run of the command comes to

The exit code of the command, what it prints and what it sends are produced apart from
each other, by the reading of the manifests, by the setup and by the printing.  Here they
are brought together: a run either refuses what it was given, or it performs one setup.

The environment cannot stop the command.  Every number in it is moved into its limits, so
the recorder has room for an event and the parts of the setup fit together (`setUp_eq`).
The manifests can stop it, but only with a failure that has a text, and those are taken up
(`load_spec`).  Once there is a setup, its outcome is one of two, and what is printed is
read off the outcome (`reported_attempt`).

* `Check.Unusable`: there is nothing to set up, for one of the reasons that count.
* `Check.Loaded`: what there is to set up.
* `Check.Printed`: what stands in the object that is printed.
* `Check.Reported`: how the exit code, the status and the events go together.
* `Check.Finished`: a run refuses, or performs a setup of what was loaded; and so does every
  run (`Check.finished_run`).
-/

namespace IssuerReadiness

/-- All failures of the readers of manifests have a text. -/
theorem Failure.OfReader.isSome_text? {vs : List Json} {f : Failure} (h : f.OfReader vs) :
    f.text?.isSome = true := by
  rcases h with ⟨message, rfl⟩ | ⟨n, -, -, rfl⟩ <;> rfl

/-- So do those of the readers of texts, even if the reader of JSON texts gives up. -/
theorem Manifest.isSome_text?_of_text [Json.Library] {α : Type} {read : Json → Except Failure α}
    {vs : Json → List Json} (h : ∀ v, FailsOnly (Failure.OfReader (vs v)) (read v))
    (subject : String) (b : Bytes) :
    FailsOnly (fun f => f.text?.isSome = true) (jsonOfBytes subject b >>= read) := by
  refine FailsOnly.bind ?_ fun v => (h v).mono fun f hf => hf.isSome_text?
  unfold jsonOfBytes
  cases Json.read b with
  | value v notes => exact .ok v
  | refused diagnosis => exact .error rfl
  | thrown text => exact .error rfl

/-- The JSON value `json` is an object that describes the condition `c`: a time that is not
set is left out, and a generation that is zero. -/
structure Condition.Shown (c : Condition) (json : Json) : Prop where
  isObject : json.isObject = true
  type : json.field "type" = .str c.type
  status : json.field "status" = .str c.status.name
  reason : json.field "reason" = .str c.reason
  message : json.field "message" = .str c.message
  lastTransition : json.field "lastTransitionTime" =
    (c.lastTransition.map fun t => Json.str (Timestamp.format t)).getD .null
  observedGeneration : json.field "observedGeneration" =
    if c.observedGeneration = 0 then .null else .int c.observedGeneration
  noTime : c.lastTransition = none → json.hasField "lastTransitionTime" = false
  noGeneration : c.observedGeneration = 0 → json.hasField "observedGeneration" = false

theorem Condition.shown_toJson (c : Condition) : c.Shown c.toJson := by
  obtain ⟨type, status, reason, message, lastTransition, observedGeneration⟩ := c.field_toJson
  have hnoTime : c.lastTransition = none → c.toJson.hasField "lastTransitionTime" = false := by
    intro hnone
    unfold Condition.toJson
    by_cases hzero : c.observedGeneration = 0 <;> simp [Json.hasField_ofMembers, hnone, hzero]
  have hnoGeneration :
      c.observedGeneration = 0 → c.toJson.hasField "observedGeneration" = false := by
    intro hzero
    unfold Condition.toJson
    cases c.lastTransition <;> simp [Json.hasField_ofMembers, hzero]
  exact ⟨rfl, type, status, reason, message, lastTransition, observedGeneration, hnoTime,
    hnoGeneration⟩

namespace Check

/-! ## Reading the manifests -/

/-- There are not one or two arguments. -/
def Miscalled (args : List String) : Prop :=
  args.length ≠ 1 ∧ args.length ≠ 2

instance (args : List String) : Decidable (Miscalled args) :=
  inferInstanceAs (Decidable (_ ∧ _))

theorem content_of_none {file? : String → Option Bytes} {path : String}
    (h : file? path = none) :
    content file? path = .error (.configuration ("cannot open " ++ path)) := by
  rw [content, h]

theorem content_of_some {file? : String → Option Bytes} {path : String} {b : Bytes}
    (h : file? path = some b) :
    content file? path = .ok b := by
  rw [content, h]

section Loading

variable [Json.Library] (file? : String → Option Bytes) (settings : Settings)

/-- The arguments name the manifest of an issuer and perhaps one of secrets, and both can
be read. -/
inductive Loaded : List String → Issuer → SecretStore → Prop
  | issuer {path : String} {b : Bytes} {issuer : Issuer} (hfile : file? path = some b)
      (hissuer : Issuer.ofBytes b = .ok issuer) : Loaded [path] issuer {}
  | secrets {path secretsPath : String} {b b' : Bytes} {issuer : Issuer} {secrets : List Secret}
      (hfile : file? path = some b) (hissuer : Issuer.ofBytes b = .ok issuer)
      (hfile' : file? secretsPath = some b')
      (hsecrets : Secret.listOfBytes (defaultNamespace issuer settings) b' = .ok secrets) :
      Loaded [path, secretsPath] issuer (SecretStore.addAll {} secrets)

/-- There is nothing to set up: there are not one or two arguments, or one of the files
cannot be opened or is refused by its reader. -/
inductive Unusable : List String → Prop
  | count {args : List String} (h : Miscalled args) : Unusable args
  | issuerFile {path : String} {rest : List String} (hfile : file? path = none) :
      Unusable (path :: rest)
  | issuer {path : String} {rest : List String} {b : Bytes} {f : Failure}
      (hfile : file? path = some b) (hissuer : Issuer.ofBytes b = .error f) :
      Unusable (path :: rest)
  | secretsFile {path secretsPath : String} (hfile' : file? secretsPath = none) :
      Unusable [path, secretsPath]
  | secrets {path secretsPath : String} {b b' : Bytes} {issuer : Issuer} {f : Failure}
      (hfile : file? path = some b) (hissuer : Issuer.ofBytes b = .ok issuer)
      (hfile' : file? secretsPath = some b')
      (hsecrets : Secret.listOfBytes (defaultNamespace issuer settings) b' = .error f) :
      Unusable [path, secretsPath]

variable {file? settings}

/-- What can be loaded is usable. -/
theorem Loaded.not_unusable {args : List String} {issuer : Issuer} {secrets : SecretStore}
    (h : Loaded file? settings args issuer secrets) : ¬ Unusable file? settings args := by
  intro hnot
  cases h with
  | issuer hfile hissuer =>
    cases hnot with
    | count h => exact h.1 rfl
    | issuerFile hnofile => simp [hfile] at hnofile
    | issuer hfile' hrefused =>
      cases hfile.symm.trans hfile'
      cases hissuer.symm.trans hrefused
  | secrets hfile hissuer hfile' hsecrets =>
    cases hnot with
    | count h => exact h.2 rfl
    | issuerFile hnofile => simp [hfile] at hnofile
    | issuer hfile'' hrefused =>
      cases hfile.symm.trans hfile''
      cases hissuer.symm.trans hrefused
    | secretsFile hnofile => simp [hfile'] at hnofile
    | secrets hfile₂ hissuer₂ hfile₂' hrefused =>
      cases hfile.symm.trans hfile₂
      cases hissuer.symm.trans hissuer₂
      cases hfile'.symm.trans hfile₂'
      cases hsecrets.symm.trans hrefused

variable (file? settings) in
/-- The manifests are loaded, or they are unusable and the failure has a text. -/
theorem load_spec (path : String) (secretsPath : Option String) :
    (∃ issuer secrets?, load file? settings path secretsPath = .ok (issuer, secrets?) ∧
      Loaded file? settings (path :: secretsPath.toList) issuer (secrets?.getD {})) ∨
    ∃ f, load file? settings path secretsPath = .error f ∧ f.text?.isSome = true ∧
      Unusable file? settings (path :: secretsPath.toList) := by
  unfold load
  cases hfile : file? path with
  | none =>
    rw [content_of_none hfile]
    exact Or.inr ⟨_, rfl, rfl, .issuerFile hfile⟩
  | some b =>
    rw [content_of_some hfile, ok_bind]
    cases hissuer : Issuer.ofBytes b with
    | error f =>
      have htext := Manifest.isSome_text?_of_text Issuer.failsOnly_ofJson "issuer" b f hissuer
      exact Or.inr ⟨f, rfl, htext, .issuer hfile hissuer⟩
    | ok issuer =>
      rw [ok_bind]
      cases secretsPath with
      | none => exact Or.inl ⟨issuer, none, rfl, .issuer hfile hissuer⟩
      | some secretsPath =>
        dsimp only
        cases hfile' : file? secretsPath with
        | none =>
          rw [content_of_none hfile']
          exact Or.inr ⟨_, rfl, rfl, .secretsFile hfile'⟩
        | some b' =>
          rw [content_of_some hfile', ok_bind]
          cases hsecrets : Secret.listOfBytes (defaultNamespace issuer settings) b' with
          | error f =>
            have hreader : ∀ v, FailsOnly (Failure.OfReader []) _ :=
              Secret.failsOnly_listOfJson (defaultNamespace issuer settings)
            have htext := Manifest.isSome_text?_of_text hreader "secrets" b' f hsecrets
            exact Or.inr ⟨f, rfl, htext, .secrets hfile hissuer hfile' hsecrets⟩
          | ok secrets =>
            exact Or.inl ⟨issuer, _, rfl, .secrets hfile hissuer hfile' hsecrets⟩

end Loading

/-! ## The report -/

/-- The JSON value `json` is an object that describes these conditions, in this order, and
has these texts as events. -/
structure Printed (json : Json) (conditions : List Condition) (events : List String) : Prop where
  isObject : json.isObject = true
  status : ∃ items, (json.field "status").field "conditions" = .arr items ∧
    List.Forall₂ Condition.Shown conditions items
  events : json.field "events" = .arr (events.map .str)

theorem printed_report (issuer : Issuer) (events : List Event) (metrics : Metrics) :
    Printed (report issuer events metrics) issuer.conditions (events.map (·.text)) where
  isObject := rfl
  status := by
    refine ⟨issuer.conditions.map Condition.toJson, ?_, ?_⟩
    · simp [report, Condition.statusToJson, Json.field_ofMembers]
    · rw [List.forall₂_map_right_iff]
      exact List.forall₂_same.2 fun c _ => c.shown_toJson
  events := by
    simp [report, Json.field_ofMembers]

/-- What the command leaves of the setup of an issuer with the outcome `outcome`.  The code
is 0 and the Ready condition holds and one event is printed, or the code is 1 and the
Ready condition fails with the text of the setup error and no event is printed; and in
either case the conditions of other types are printed as they were. -/
inductive Reported (issuer : Issuer) (outcome : Setup.Outcome) (result : Result) : Prop
  | ready {json : Json} {conditions : List Condition} {since : Instant}
      (verdict : outcome.verdict = .ok ()) (exitCode : result.exitCode = 0)
      (output : result.output = some json)
      (printed : Printed json conditions ["Normal Ready Verified issuer with Venafi server"])
      (only : Condition.OnlyEntry
        { type := "Ready", status := .holds, reason := "Venafi issuer started",
          message := "Venafi issuer started", lastTransition := some since,
          observedGeneration := issuer.generation } issuer.conditions conditions)
  | notReady {json : Json} {conditions : List Condition} {since : Instant} {e : SetupError}
      (verdict : outcome.verdict = .error e) (exitCode : result.exitCode = 1)
      (output : result.output = some json)
      (printed : Printed json conditions [])
      (only : Condition.OnlyEntry
        { type := "Ready", status := .fails, reason := "ErrorSetup", message := e.message,
          lastTransition := some since, observedGeneration := issuer.generation }
        issuer.conditions conditions)

/-- What is complained of has no part in the report. -/
theorem Reported.complaining {issuer : Issuer} {outcome : Setup.Outcome} {result : Result}
    (h : Reported issuer outcome result) (complaint : String) :
    Reported issuer outcome { result with complaint := complaint } := by
  cases h with
  | ready verdict exitCode output printed only =>
    exact .ready verdict exitCode output printed only
  | notReady verdict exitCode output printed only =>
    exact .notReady verdict exitCode output printed only

/-! ## Refusals -/

/-- Nothing was sent, and there is no object to print. -/
structure Refused (before : Session) (r : Result × Session) : Prop where
  exitCode : r.1.exitCode = 2
  output : r.1.output = none
  network : r.2.network = before.network

/-- A failure with a text is taken up. -/
theorem refused_refuse {f : Failure} (h : f.text?.isSome = true) (session : Session) :
    (refuse f session).1.escaped = none ∧ Refused session (refuse f session) := by
  obtain ⟨text, htext⟩ := Option.isSome_iff_exists.1 h
  rw [refuse, htext]
  exact ⟨rfl, rfl, rfl, rfl⟩

/-! ## The setup -/

/-- Nothing but the log changes while it is started. -/
theorem exists_start (settings : Settings) (fault? : String → Option String) (session : Session) :
    ∃ book, (start settings fault? session).1 = { session with log := book } :=
  ⟨_, rfl⟩

/-- The recorder that the command starts with. -/
def recorderOf (settings : Settings) (root : Logger) : Recorder where
  capacity := settings.eventCapacity.toNat
  logger := root.named "recorder"

/-- The context of the setup.  It has a token of its own, and its deadline is reached when the
seconds of the settings have passed. -/
def contextOf (settings : Settings) (m : Moment) : Context where
  token := m.issued
  deadline := some (m.now + settings.setupTimeoutSeconds * 1000000000)

/-- The session in which the setup starts: the context has been given out. -/
def entered (session : Session) : Session :=
  { session with moment := { session.moment with issued := session.moment.issued + 1 } }

/-- A recorder with room for one event keeps the first one. -/
theorem drain_record_recorderOf {settings : Settings} (h : 1 ≤ settings.eventCapacity)
    (root : Logger) (e : Event) : ((recorderOf settings root).record e).drain.1 = [e] := by
  have hroom : (recorderOf settings root).isFull = false := by
    have hcapacity : ¬ settings.eventCapacity.toNat ≤ 0 := by omega
    exact decide_eq_false hcapacity
  rw [Recorder.record, hroom]
  rfl

section Command

variable [Json.Library] [Certificate.Library]

/-- The setup that the command does. -/
def setupOf (settings : Settings) (root : Logger) : Setup where
  backend := "Venafi"
  builder := Venafi.builder settings.userAgent settings.connectTimeoutSeconds
  metered := true
  logger := root.named "venafi"
  clusterNamespace := settings.clusterNamespace

/-- The one setup of a run of the command. -/
def setupRun (settings : Settings) (issuer : Issuer) (secrets : SecretStore) (session : Session) :
    Setup.Outcome × Session :=
  (setupOf settings session.log.root).run secrets (contextOf settings session.moment) issuer
    (recorderOf settings session.log.root) (entered session)

/-- With room for one event the parts of the setup fit together. -/
theorem setUp_eq {settings : Settings} (h : 1 ≤ settings.eventCapacity) (issuer : Issuer)
    (secrets : SecretStore) (session : Session) :
    setUp settings issuer secrets session = .ok (setupRun settings issuer secrets session) := by
  have hcapacity : settings.eventCapacity.toNat ≠ 0 := by omega
  have hrecorder : Recorder.create settings.eventCapacity.toNat
      (session.log.root.named "recorder") = .ok (recorderOf settings session.log.root) :=
    if_neg hcapacity
  have hcontext : session.moment.withTimeout (settings.setupTimeoutSeconds * 1000) =
      (contextOf settings session.moment, (entered session).moment) := by
    unfold Moment.withTimeout Moment.issue contextOf entered
    rw [Int.mul_assoc]
    rfl
  unfold setUp
  dsimp only
  rw [hrecorder, hcontext]
  rfl

section Attempt

variable {settings : Settings} {issuer : Issuer} {secrets : SecretStore} {session : Session}

/-- What the command leaves if all stages have succeeded. -/
theorem reported_of_succeeded (h : 1 ≤ settings.eventCapacity) (root : Logger) (now : Instant)
    (hs : Setup.Succeeded (setupOf settings root) issuer (recorderOf settings root) now
      (setupRun settings issuer secrets session).1) :
    (attempt settings issuer secrets session).1.escaped = none ∧
      Reported issuer (setupRun settings issuer secrets session).1
        (attempt settings issuer secrets session).1 := by
  have hsetUp := setUp_eq h issuer secrets session
  generalize setupRun settings issuer secrets session = p at hs hsetUp ⊢
  have hevents : p.1.recorder.drain.1.map (·.text) =
      ["Normal Ready Verified issuer with Venafi server"] := by
    rw [hs.event, drain_record_recorderOf h]
    rfl
  have hprinted := printed_report p.1.issuer p.1.recorder.drain.1 p.2.metrics
  rw [hevents] at hprinted
  unfold attempt
  rw [hsetUp]
  dsimp only
  rw [hs.verdict]
  exact ⟨rfl, .ready hs.verdict rfl rfl hprinted hs.status.ready⟩

/-- What the command leaves if a stage has failed. -/
theorem reported_of_failed (h : 1 ≤ settings.eventCapacity) (root : Logger) (now : Instant)
    {e : SetupError}
    (hf : Setup.Failed issuer (recorderOf settings root) now
      (setupRun settings issuer secrets session).1 e) :
    (attempt settings issuer secrets session).1.escaped = none ∧
      Reported issuer (setupRun settings issuer secrets session).1
        (attempt settings issuer secrets session).1 := by
  have hsetUp := setUp_eq h issuer secrets session
  generalize setupRun settings issuer secrets session = p at hf hsetUp ⊢
  have hevents : p.1.recorder.drain.1.map (·.text) = [] := by
    rw [hf.silent]
    rfl
  have hprinted := printed_report p.1.issuer p.1.recorder.drain.1 p.2.metrics
  rw [hevents] at hprinted
  unfold attempt
  rw [hsetUp]
  dsimp only
  rw [hf.verdict]
  exact ⟨rfl, .notReady hf.verdict rfl rfl hprinted hf.status.ready⟩

/-- The outcome of the setup is reported. -/
theorem reported_attempt (h : 1 ≤ settings.eventCapacity) (issuer : Issuer)
    (secrets : SecretStore) (session : Session) :
    (attempt settings issuer secrets session).1.escaped = none ∧
      Reported issuer (setupRun settings issuer secrets session).1
        (attempt settings issuer secrets session).1 := by
  rcases Setup.ends_run (setupOf settings session.log.root) secrets
    (contextOf settings session.moment) issuer (recorderOf settings session.log.root)
    (entered session) with ⟨σ, hrun⟩ | ⟨stage, cause, σ, hrun⟩
  · have hs := Setup.succeeded_succeed (setupOf settings session.log.root) issuer
      (recorderOf settings session.log.root) σ
    rw [← hrun] at hs
    exact reported_of_succeeded h _ _ hs
  · have hf := Setup.failed_fail (setupOf settings session.log.root) issuer
      (recorderOf settings session.log.root) stage cause σ
    rw [← hrun] at hf
    exact reported_of_failed h _ _ hf

/-- After the setup nothing is done but writing lines. -/
theorem snd_attempt (h : 1 ≤ settings.eventCapacity) (issuer : Issuer) (secrets : SecretStore)
    (session : Session) :
    ∃ σ, (σ = (setupRun settings issuer secrets session).2 ∨
        ∃ text, σ = tell (setupRun settings issuer secrets session).2 .warn text) ∧
      (attempt settings issuer secrets session).2 = { σ with log := σ.log.flush } := by
  unfold attempt
  rw [setUp_eq h]
  generalize setupRun settings issuer secrets session = p
  obtain ⟨⟨verdict, issuer', recorder⟩, after⟩ := p
  cases verdict with
  | error e => exact ⟨_, Or.inr ⟨_, rfl⟩, rfl⟩
  | ok _ => exact ⟨_, Or.inl rfl, rfl⟩

theorem network_attempt (h : 1 ≤ settings.eventCapacity) (issuer : Issuer) (secrets : SecretStore)
    (session : Session) :
    (attempt settings issuer secrets session).2.network =
      (setupRun settings issuer secrets session).2.network := by
  obtain ⟨σ, rfl | ⟨text, rfl⟩, hattempt⟩ := snd_attempt h issuer secrets session
  · rw [hattempt]
  · rw [hattempt]
    rfl

end Attempt

/-! ## Runs -/

/-- The issuer was set up once, in the session as it was but for the log, and what is left is
what the setup has come to. -/
def Performed (settings : Settings) (issuer : Issuer) (secrets : SecretStore) (before : Session)
    (r : Result × Session) : Prop :=
  ∃ book, let p := setupRun settings issuer secrets { before with log := book }
    Reported issuer p.1 r.1 ∧ r.2.network = p.2.network

theorem Performed.exitCode {settings : Settings} {issuer : Issuer} {secrets : SecretStore}
    {before : Session} {r : Result × Session} (h : Performed settings issuer secrets before r) :
    r.1.exitCode = 0 ∨ r.1.exitCode = 1 := by
  obtain ⟨_, hreported, -⟩ := h
  cases hreported with
  | ready _ hcode => exact Or.inl hcode
  | notReady _ hcode => exact Or.inr hcode

theorem performed_attempt {settings : Settings} (h : 1 ≤ settings.eventCapacity) (issuer : Issuer)
    (secrets : SecretStore) (before : Session) (book : LogBook) :
    let r := attempt settings issuer secrets { before with log := book }
    r.1.escaped = none ∧ Performed settings issuer secrets before r := by
  obtain ⟨hescaped, hreported⟩ := reported_attempt h issuer secrets { before with log := book }
  exact ⟨hescaped, book, hreported, network_attempt h issuer secrets _⟩

/-- How a run can end: what it was given is unusable and it refuses, or it performs a setup of
what was loaded. -/
inductive Finished (file? : String → Option Bytes) (settings : Settings) (args : List String)
    (before : Session) (r : Result × Session) : Prop
  | refused (unusable : Unusable file? settings args) (escaped : r.1.escaped = none)
      (refused : Refused before r)
  | performed {issuer : Issuer} {secrets : SecretStore}
      (loaded : Loaded file? settings args issuer secrets) (escaped : r.1.escaped = none)
      (performed : Performed settings issuer secrets before r)

/-- The command on manifests once its log is started. -/
theorem finished_proceed {settings : Settings} (h : 1 ≤ settings.eventCapacity)
    (file? : String → Option Bytes) (path : String) (secretsPath : Option String)
    (before : Session) (book : LogBook) :
    Finished file? settings (path :: secretsPath.toList) before
      (proceed settings file? path secretsPath { before with log := book }) := by
  unfold proceed
  rcases load_spec file? settings path secretsPath with
    ⟨issuer, secrets?, hload, hloaded⟩ | ⟨f, hload, htext, hunusable⟩
  · rw [hload]
    cases secrets? with
    | none =>
      obtain ⟨hescaped, hperformed⟩ := performed_attempt h issuer {} before book
      exact .performed hloaded hescaped hperformed
    | some secrets =>
      obtain ⟨hescaped, hperformed⟩ := performed_attempt h issuer secrets before
        (tell { before with log := book } .info
          ("Loaded " ++ toString secrets.size ++ " secret(s)")).log
      exact .performed hloaded hescaped hperformed
  · rw [hload]
    obtain ⟨hescaped, hcode, houtput, hnetwork⟩ :=
      refused_refuse htext { before with log := book }
    exact .refused hunusable hescaped ⟨hcode, houtput, hnetwork⟩

section Runs

variable (setting : String → Option String) (file? : String → Option Bytes)
  (fault? : String → Option String) (before : Session)

/-- The command on the manifests that its arguments name. -/
theorem finished_perform (path : String) (secretsPath : Option String) :
    Finished file? (Settings.ofEnvironment setting).1 (path :: secretsPath.toList) before
      (perform path secretsPath setting file? fault? before) := by
  have hcapacity := (Settings.bounds_eventCapacity setting).1
  unfold perform
  generalize Settings.ofEnvironment setting = read at hcapacity ⊢
  obtain ⟨settings, warnings⟩ := read
  dsimp only at hcapacity ⊢
  obtain ⟨book, hstart⟩ := exists_start settings fault?
    { before with log := before.log.warnAll warnings }
  rw [hstart]
  cases finished_proceed hcapacity file? path secretsPath before book with
  | refused hunusable hescaped hrefused =>
    exact .refused hunusable hescaped ⟨hrefused.exitCode, hrefused.output, hrefused.network⟩
  | performed hloaded hescaped hperformed =>
    obtain ⟨book', hreported, hnetwork⟩ := hperformed
    exact .performed hloaded hescaped ⟨book', hreported.complaining _, hnetwork⟩

/-- Any run of the command is one on manifests, or it refuses the number of its
arguments. -/
theorem finished_run (args : List String) :
    Finished file? (Settings.ofEnvironment setting).1 args before
      (run args setting file? fault? before) := by
  match args with
  | [] => exact .refused (.count (by decide)) rfl ⟨rfl, rfl, rfl⟩
  | [path] => exact finished_perform setting file? fault? before path none
  | [path, secretsPath] =>
    exact finished_perform setting file? fault? before path (some secretsPath)
  | _ :: _ :: _ :: rest =>
    exact .refused (.count (by simp [Miscalled])) rfl ⟨rfl, rfl, rfl⟩

end Runs

end Command
end Check
end IssuerReadiness
