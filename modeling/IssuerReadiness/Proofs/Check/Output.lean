import IssuerReadiness.Proofs.Check.Outcome
import IssuerReadiness.Proofs.Sinks

/-!
# What a run of the command writes on standard output

Besides the object that is printed, lines of the log can reach standard output.  The command
reads its environment before it starts its log, and until then the root logger is the one that
every program starts with, which writes there.  So each warning about the environment
stands on standard output, in front of the object and also where there is no object at all.
What is written afterwards goes to the sinks of the command's own log (`addsTo_proceed`),
unless its file cannot be opened: then the first logger stays, and every line is on standard
output.

* `Check.sinksOf`: where lines go once the command has tried to start its log.
* `Check.Overheard`: which lines of the log are on standard output.
* `Check.overheard_run`: so it is after every run, and `Check.Overheard.silent_iff`: when a run
  that prints no object is silent.
-/

namespace IssuerReadiness
namespace Check

/-! ## Lines -/

section Lines

variable {settings : Settings} {sinks : List Sink} {session : Session}

/-- Why the log of the command cannot be started, if it cannot. -/
def logFault? (settings : Settings) (fault? : String → Option String) : Option String :=
  LogBook.startFault? fault? (settings.logFile != "") settings.logFile

/-- Where lines go once the command has tried to start its log. -/
def sinksOf (settings : Settings) (fault? : String → Option String) : List Sink :=
  match logFault? settings fault? with
  | some _ => [.stdout]
  | none => Logger.serviceSinks (settings.logFile != "") settings.logFile

/-- The log of a service has nothing to do with standard output. -/
theorem stdout_notMem_serviceSinks (toFile : Bool) (file : String) :
    Sink.stdout ∉ Logger.serviceSinks toFile file := by
  unfold Logger.serviceSinks
  split <;> simp

/-- The log that holds the warnings about the environment and nothing else. -/
def warned (warnings : List String) : LogBook :=
  { lines := warnings.map fun w => ⟨.warn, "", w, [.stdout]⟩ }

theorem linesTo_warned (warnings : List String) :
    (warned warnings).linesTo .stdout = (warned warnings).lines := by
  refine List.filter_eq_self.2 fun line hline => ?_
  obtain ⟨w, -, rfl⟩ := List.mem_map.1 hline
  rfl

theorem warnAll_eq (warnings : List String) : LogBook.warnAll {} warnings = warned warnings := by
  have hnotes : LogBook.warnAll {} warnings =
      LogBook.noteAll {} (warnings.map fun w => (.warn, w)) := by
    rw [LogBook.noteAll, List.foldl_map]
    rfl
  rw [hnotes, LogBook.noteAll_eq, List.flatMap_map]
  exact congrArg (fun lines => ({ lines := lines } : LogBook)) List.map_eq_flatMap.symm

theorem addsTo_tell (hroot : session.log.root.sinks = sinks) (level : Level) (text : String) :
    session.AddsTo sinks (tell session level text) :=
  .write hroot hroot level text

theorem addsTo_tellAll (hroot : session.log.root.sinks = sinks) (texts : List String) :
    session.AddsTo sinks (texts.foldl (tell · .info ·) session) := by
  induction texts generalizing session with
  | nil => exact .of_log_eq hroot rfl
  | cons text texts ih =>
    have htell := addsTo_tell hroot .info text
    exact htell.trans (ih htell.root)

/-- A log that can be started has the root logger of its service from then on. -/
theorem start_of_none {book : LogBook} {fault? : String → Option String} {service level : String}
    {toFile : Bool} {file : String} (h : LogBook.startFault? fault? toFile file = none) :
    ∃ text, book.start fault? service level toFile file =
      (({ book with root := LogBook.serviceRoot service level toFile file } : LogBook).write
        (LogBook.serviceRoot service level toFile file) .info text, "") := by
  unfold LogBook.start
  rw [h]
  exact ⟨_, rfl⟩

theorem start_of_some {book : LogBook} {fault? : String → Option String} {service level : String}
    {toFile : Bool} {file why : String} (h : LogBook.startFault? fault? toFile file = some why) :
    (book.start fault? service level toFile file).1 = book := by
  unfold LogBook.start
  rw [h]

/-- What is told as the log is started goes where lines go afterwards. -/
theorem addsTo_start (fault? : String → Option String)
    (hroot : session.log.root.sinks = [.stdout]) :
    session.AddsTo (sinksOf settings fault?) (start settings fault? session).1 := by
  unfold start sinksOf
  cases hfault : logFault? settings fault? with
  | some why =>
    dsimp only
    rw [start_of_some hfault]
    exact addsTo_tellAll hroot _
  | none =>
    obtain ⟨text, hstart⟩ : ∃ text, session.log.start fault? programName settings.logLevel
        (settings.logFile != "") settings.logFile = _ := start_of_none hfault
    rw [hstart]
    let root := LogBook.serviceRoot programName settings.logLevel (settings.logFile != "")
      settings.logFile
    let rooted : Session := { session with log := { session.log with root := root } }
    have hrooted : session.AddsTo root.sinks rooted := ⟨rfl, [], (List.append_nil _).symm, nofun⟩
    have hline : session.AddsTo root.sinks (rooted.write root .info text) :=
      hrooted.trans (.write hrooted.root (Eq.refl root.sinks) .info text)
    exact hline.trans (addsTo_tellAll hline.root _)

/-- A log that cannot be started tells of the settings on the first logger. -/
theorem lines_start_ne_nil {fault? : String → Option String} {why : String}
    (hfault : logFault? settings fault? = some why) (hroot : session.log.root = {}) :
    (start settings fault? session).1.log.lines ≠ [] := by
  let told := tell session .info (programName ++ " v1.0.0")
  have htold : told.log.lines ≠ [] := by
    have hkept : told.log.lines =
        session.log.lines ++ [⟨.info, "", programName ++ " v1.0.0", [.stdout]⟩] := by
      unfold told tell Session.write
      rw [LogBook.write_eq, hroot]
      rfl
    rw [hkept]
    exact List.append_ne_nil_of_right_ne_nil _ (List.cons_ne_nil _ _)
  have hrest : told.AddsTo told.log.root.sinks
      ((introduction settings).tail.foldl (tell · .info ·) told) := addsTo_tellAll rfl _
  unfold start
  dsimp only
  rw [start_of_some hfault]
  exact hrest.lines_ne_nil htold

theorem addsTo_refuse (f : Failure) (hroot : session.log.root.sinks = sinks) :
    session.AddsTo sinks (refuse f session).2 := by
  unfold refuse
  cases f.text? with
  | some text => exact addsTo_tell hroot .error _
  | none => exact .of_log_eq hroot rfl

end Lines

/-! ## Being heard -/

/-- Which lines of the log of a run are on standard output, if there were these warnings about
the environment. -/
structure Overheard (args : List String) (settings : Settings) (warnings : List String)
    (fault? : String → Option String) (log : LogBook) : Prop where
  /-- None is if the number of arguments is wrong. -/
  miscalled : Miscalled args → log.linesTo .stdout = []
  /-- The warnings are, and nothing else, if the log was started. -/
  started : ¬ Miscalled args → logFault? settings fault? = none →
    log.linesTo .stdout = (warned warnings).lines
  /-- All lines are if it could not be started, and there are some. -/
  unstarted : ¬ Miscalled args → logFault? settings fault? ≠ none →
    log.linesTo .stdout = log.lines ∧ log.lines ≠ []

/-- Nothing reaches standard output: there is no object to print, and no line of the log is
written there. -/
structure Silent (r : Result × Session) : Prop where
  output : r.1.output = none
  log : r.2.log.linesTo .stdout = []

/-- A run that prints no object is silent if its arguments are not counted right, or if its log
was started and the environment is as it should be. -/
theorem Overheard.silent_iff {args : List String} {settings : Settings} {warnings : List String}
    {fault? : String → Option String} {r : Result × Session}
    (h : Overheard args settings warnings fault? r.2.log) (houtput : r.1.output = none) :
    Silent r ↔ Miscalled args ∨ logFault? settings fault? = none ∧ warnings = [] := by
  by_cases hcall : Miscalled args
  · exact iff_of_true ⟨houtput, h.miscalled hcall⟩ (Or.inl hcall)
  rw [or_iff_right hcall]
  by_cases hfault : logFault? settings fault? = none
  · have hwarned : r.2.log.linesTo .stdout = [] ↔ warnings = [] := by
      rw [h.started hcall hfault]
      exact List.map_eq_nil_iff
    rw [and_iff_right hfault, ← hwarned]
    exact ⟨fun hsilent => hsilent.log, fun hlog => ⟨houtput, hlog⟩⟩
  · obtain ⟨hall, hne⟩ := h.unstarted hcall hfault
    exact iff_of_false (fun hsilent => hne (hall.symm.trans hsilent.log)) fun hquiet =>
      hfault hquiet.1

section Command

variable [Json.Library] [Certificate.Library]

/-! ## Where the lines of a run go -/

section Output

variable {settings : Settings} {sinks : List Sink} {session : Session}

theorem addsTo_attempt (h : 1 ≤ settings.eventCapacity) (issuer : Issuer) (secrets : SecretStore)
    (hroot : session.log.root.sinks = sinks) :
    session.AddsTo sinks (attempt settings issuer secrets session).2 := by
  have hbuilder : (setupOf settings session.log.root).builder.LogsTo sinks :=
    Venafi.logsTo_builder _ _
  have hlogger : (setupOf settings session.log.root).logger.sinks = sinks := hroot
  have hrecorder : (recorderOf settings session.log.root).logger.sinks = sinks := hroot
  have hentered : session.AddsTo sinks (entered session) := .of_log_eq hroot rfl
  have hrun : session.AddsTo sinks (setupRun settings issuer secrets session).2 :=
    hentered.trans (Setup.logsTo_run hlogger hrecorder _ issuer hbuilder secrets _ hroot)
  obtain ⟨σ, hσ, hattempt⟩ := snd_attempt h issuer secrets session
  have hadds : session.AddsTo sinks σ := by
    rcases hσ with rfl | ⟨text, rfl⟩
    · exact hrun
    · exact hrun.trans (addsTo_tell hrun.root .warn text)
  rw [hattempt]
  exact ⟨hadds.root, hadds.lines⟩

theorem addsTo_proceed (h : 1 ≤ settings.eventCapacity) (file? : String → Option Bytes)
    (issuerPath : String) (secretsPath : Option String) (hroot : session.log.root.sinks = sinks) :
    session.AddsTo sinks (proceed settings file? issuerPath secretsPath session).2 := by
  unfold proceed
  split
  · exact addsTo_refuse _ hroot
  · exact addsTo_attempt h _ _ hroot
  · have htell := addsTo_tell hroot .info
    exact (htell _).trans (addsTo_attempt h _ _ (htell _).root)

end Output

section Runs

variable (setting : String → Option String) (file? : String → Option Bytes)
  (fault? : String → Option String) (before : Session)

/-- What the command on manifests writes on standard output besides its object. -/
theorem overheard_perform (path : String) (secretsPath : Option String) (hlog : before.log = {}) :
    Overheard (path :: secretsPath.toList) (Settings.ofEnvironment setting).1
      (Settings.ofEnvironment setting).2 fault?
      (perform path secretsPath setting file? fault? before).2.log := by
  have hcapacity := (Settings.bounds_eventCapacity setting).1
  unfold perform
  generalize Settings.ofEnvironment setting = read at hcapacity ⊢
  obtain ⟨settings, warnings⟩ := read
  dsimp only at hcapacity ⊢
  rw [hlog, warnAll_eq]
  let first : Session := { before with log := warned warnings }
  have hstart : first.AddsTo (sinksOf settings fault?) (start settings fault? first).1 :=
    addsTo_start fault? rfl
  have hproceed := addsTo_proceed hcapacity file? path secretsPath hstart.root
  have hfirst : first.log.linesTo .stdout = first.log.lines := linesTo_warned warnings
  refine ⟨fun hcount => absurd hcount ?_, fun _ hfault => ?_, fun _ hfault => ?_⟩
  · cases secretsPath <;> simp [Miscalled]
  · have hsinks : Sink.stdout ∉ sinksOf settings fault? := by
      rw [sinksOf, hfault]
      exact stdout_notMem_serviceSinks _ _
    exact ((hstart.trans hproceed).linesTo_of_notMem hsinks).trans hfirst
  · obtain ⟨why, hwhy⟩ := Option.ne_none_iff_exists'.1 hfault
    have hsinks : Sink.stdout ∈ sinksOf settings fault? := by
      rw [sinksOf, hwhy]
      exact List.mem_singleton_self _
    exact ⟨(hstart.trans hproceed).linesTo_of_mem hsinks hfirst,
      hproceed.lines_ne_nil (lines_start_ne_nil hwhy rfl)⟩

theorem overheard_run (args : List String) (hlog : before.log = {}) :
    Overheard args (Settings.ofEnvironment setting).1 (Settings.ofEnvironment setting).2 fault?
      (run args setting file? fault? before).2.log := by
  have hcount {args : List String} (h : Miscalled args) :
      Overheard args (Settings.ofEnvironment setting).1 (Settings.ofEnvironment setting).2 fault?
        before.log :=
    ⟨fun _ => by rw [hlog]; rfl, fun hcalled => absurd h hcalled, fun hcalled => absurd h hcalled⟩
  match args with
  | [] => exact hcount (by decide)
  | [path] => exact overheard_perform setting file? fault? before path none hlog
  | [path, secretsPath] =>
    exact overheard_perform setting file? fault? before path (some secretsPath) hlog
  | _ :: _ :: _ :: rest => exact hcount (by simp [Miscalled])

end Runs

end Command
end Check
end IssuerReadiness
