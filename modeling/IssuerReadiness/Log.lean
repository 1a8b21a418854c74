import IssuerReadiness.Text

/-!
# Log lines

A logger has a name and a level, and a line is kept if its level is at least
that of its logger.  One logger of a log book is its root: it owns the sinks, and
every named logger writes to the same sinks at the same level under a name of
its own.

A program starts with a root logger that has no name and writes to standard output.
It is replaced by the logger of a service, which does not; but a line that was written
before stays where it was written, and if the file of the new logger cannot be opened
then the first one remains.

* `Logger.admits` --- whether a logger keeps lines of a level.
* `LogBook.write` --- adds a line if its logger admits it.
* `LogBook.linesTo` --- the lines that a sink got.
* `LogBook.start` --- gives the log book the root logger of a service.
* `Logger.named` --- a component's logger.
-/

namespace IssuerReadiness

/-- How much a line matters. -/
inductive Level where
  | trace | debug | info | warn | error | critical
  deriving DecidableEq, Repr

namespace Level

/-- The levels in order, the least important first. -/
def severity : Level → Nat
  | .trace => 0
  | .debug => 1
  | .info => 2
  | .warn => 3
  | .error => 4
  | .critical => 5

/-- The name of a level. -/
def name : Level → String
  | .trace => "trace"
  | .debug => "debug"
  | .info => "info"
  | .warn => "warn"
  | .error => "error"
  | .critical => "critical"

/-- The level with a given name; every other text is read as `info`. -/
def ofName (s : String) : Level :=
  if s = "trace" then .trace
  else if s = "debug" then .debug
  else if s = "warn" then .warn
  else if s = "error" then .error
  else if s = "critical" then .critical
  else .info

@[simp] theorem ofName_name (l : Level) : ofName l.name = l := by
  cases l <;> decide

end Level

/-- Where lines go. -/
inductive Sink where
  /-- Standard output, in color. -/
  | stdout
  /-- Standard error, in color. -/
  | stderr
  /-- A file that is closed and renamed when it has grown to a number of bytes,
  and of which a number of older ones are kept. -/
  | rotatingFile (path : String) (bytes files : Nat)
  deriving DecidableEq, Repr

/-- The form in which a sink writes a line: time, logger, level and text, in the library's
own form on standard output. -/
def Sink.pattern : Sink → String
  | .stdout => "%+"
  | .stderr => "[%Y-%m-%d %H:%M:%S.%e] [%n] [%^%l%$] %v"
  | .rotatingFile _ _ _ => "[%Y-%m-%d %H:%M:%S.%e] [%n] [%l] %v"

/-- One line of a log. -/
structure Line where
  level : Level
  logger : String
  text : String
  /-- The sinks that it was written to. -/
  sinks : List Sink
  deriving DecidableEq, Repr

/-- A named source of lines; the one that a program starts with, if nothing is said. -/
structure Logger where
  name : String := ""
  level : Level := .info
  /-- The level from which on a line is written out at once. -/
  flushOn : Option Level := none
  sinks : List Sink := [.stdout]
  deriving DecidableEq, Repr

namespace Logger

/-- Whether a logger keeps lines of a level. -/
def admits (logger : Logger) (level : Level) : Bool :=
  logger.level.severity ≤ level.severity

/-- A logger of another name with the same level and sinks. -/
def named (base : Logger) (name : String) : Logger :=
  { base with name := name, flushOn := some .warn }

/-- The sinks of a service: standard error, and a file if one is asked for and
named; ten mebibytes a file, and three older ones. -/
def serviceSinks (toFile : Bool) (file : String) : List Sink :=
  if toFile && file != "" then [.stderr, .rotatingFile file (1024 * 1024 * 10) 3] else [.stderr]

end Logger

/-- The lines kept so far, and the root logger. -/
structure LogBook where
  root : Logger := {}
  lines : List Line := []
  /-- How often the root logger was told to write out everything. -/
  flushes : Nat := 0
  deriving DecidableEq, Repr

namespace LogBook

/-- Adds a line if its logger admits it. -/
def write (book : LogBook) (logger : Logger) (level : Level) (text : String) : LogBook :=
  if logger.admits level then
    { book with lines := book.lines ++ [⟨level, logger.name, text, logger.sinks⟩] }
  else book

/-- The lines that were written to a sink. -/
def linesTo (book : LogBook) (sink : Sink) : List Line :=
  book.lines.filter fun line => line.sinks.contains sink

/-- The root logger of a service. -/
def serviceRoot (service level : String) (toFile : Bool) (file : String) : Logger :=
  { name := service, level := Level.ofName level, flushOn := some .warn,
    sinks := Logger.serviceSinks toFile file }

/-- Why the file of a service cannot be opened, if one is asked for and named. -/
def startFault? (fault? : String → Option String) (toFile : Bool) (file : String) :
    Option String :=
  if toFile && file != "" then fault? file else none

/-- Gives the log book the root logger of a service and says so in the log.  The
line repeats the level as it was asked for, known or not.  If the file cannot be opened
nothing is changed, and the complaint about it is given back. -/
def start (book : LogBook) (fault? : String → Option String) (service level : String)
    (toFile : Bool) (file : String) : LogBook × String :=
  match startFault? fault? toFile file with
  | some why => (book, "Logger initialization failed: " ++ Text.beforeNul why ++ "\n")
  | none =>
      let root := serviceRoot service level toFile file
      ({ book with root := root }.write root .info
        ("Logger initialized: service=" ++ service ++ ", level=" ++ level ++ ", file=" ++
          (if toFile then file else "none")), "")

/-- Writes out everything. -/
def flush (book : LogBook) : LogBook :=
  { book with flushes := book.flushes + 1 }

@[simp] theorem root_write (book : LogBook) (logger : Logger) (level : Level) (text : String) :
    (book.write logger level text).root = book.root := by
  unfold write
  split <;> rfl

end LogBook

end IssuerReadiness
