import IssuerReadiness.Certificate.Bundle
import IssuerReadiness.Check
import IssuerReadiness.Json.Parser
import IssuerReadiness.Json.Printer
import Std.Time.DateTime.Timestamp

/-!
# The program

The outermost layer: it reads the environment, the files and the clocks, runs
`Check.run` on them, and writes what the command leaves.

This build reads JSON texts and certificates with the readers of this library, and it has
no transport that speaks TLS, so every request ends as one whose protocol is not supported.
-/

namespace IssuerReadiness
namespace Console

/-- The content of a file.  One that can be opened but not read, such as a directory,
reads as empty. -/
def content? (path : String) : IO (Option Bytes) := do
  try
    let handle ← IO.FS.Handle.mk path .read
    let content ← try handle.readBinToEnd catch _ => pure ByteArray.empty
    return some content.toList
  catch _ => return none

/-- The variables of the environment that the settings are read from. -/
def environment : IO (List (String × String)) :=
  Settings.variableNames.filterMapM fun name => do
    return (← IO.getEnv name).map (name, ·)

/-- The files that the arguments name. -/
def files (args : List String) : IO (List (String × Bytes)) :=
  args.filterMapM fun path => do
    return (← content? path).map (path, ·)

/-- A line of the log as it is shown. -/
def shown (line : Line) : String :=
  "[" ++ line.logger ++ "] [" ++ line.level.name ++ "] " ++ line.text

/-- Writes a line to a sink. -/
def writeLine (line : Line) : Sink → IO Unit
  | .stdout => do (← IO.getStdout).putStrLn (shown line)
  | .stderr => do (← IO.getStderr).putStrLn (shown line)
  | .rotatingFile path _ _ => do (← IO.FS.Handle.mk path .append).putStrLn (shown line)

/-- Why a file cannot be opened for writing, if it cannot. -/
def fault? (path : String) : IO (Option String) := do
  try
    let _ ← IO.FS.Handle.mk path .append
    return none
  catch e => return some (toString e)

/-- The log files that an environment names and that cannot be opened. -/
def logFaults (environment : List (String × String)) : IO (List (String × String)) :=
  (environment.filter (·.1 == "LOG_FILE")).filterMapM fun (_, path) => do
    return (← fault? path).map (path, ·)

/-- A session that starts now. -/
def session : IO Session := do
  let date := (← Std.Time.Timestamp.now).toNanosecondsSinceUnixEpoch
  return {
    moment := { now := ← IO.monoNanosNow, wall := date.val }
    network := { exhausted := "Unsupported protocol" } }

end Console
end IssuerReadiness

open IssuerReadiness in
/-- Checks one issuer. -/
def main (args : List String) : IO UInt32 := do
  let environment ← Console.environment
  let files ← Console.files args
  let faults ← if args.length = 1 ∨ args.length = 2 then Console.logFaults environment else pure []
  let (result, session) :=
    @Check.run Json.strict Certificate.pem args (List.lookup · environment) (List.lookup · files)
      (List.lookup · faults) (← Console.session)
  (← IO.getStderr).putStr result.complaint
  for line in session.log.lines do
    line.sinks.forM (Console.writeLine line)
  if let some output := result.output then
    (← IO.getStdout).putStrLn (output.pretty "")
  return UInt32.ofNat result.exitCode
