import QueryGateway.CommandLine.Commands
import QueryGateway.Supply
import Std.Time.DateTime.Timestamp

/-!
The program.

It reads the clock, random bytes and the file of the configuration, and runs the
command.  It opens no connections and listens at no address: a command that serves ends
here, with the service it would run.
-/

namespace QueryGateway.CommandLine

/-- How the program is used. -/
def usageText : String :=
  "Usage: serve [--config PATH] [--port PORT] | check [--config PATH] | routes [--config PATH]"

/-- What is said when no command is run, and the exit code. -/
def usageAnswer : Usage → String × UInt32
  | .help => (usageText, 0)
  | .version => ("0.1.0", 0)
  | .missingCommand => (usageText, 2)
  | .invalidCommand => ("error: unrecognized command", 2)
  | .unknownArgument => ("error: unexpected argument", 2)
  | .missingValue => ("error: a value is required", 2)
  | .unneededValue => ("error: unexpected value", 2)
  | .invalidValue => ("error: invalid value", 2)
  | .repeatedSetting => ("error: an argument cannot be used more than once", 2)

/-- The text of a file, if it can be read. -/
def readText (path : String) : IO (Option String) := do
  try
    return some (← IO.FS.readFile path)
  catch _ =>
    return none

/-- The supply of a run. -/
def currentSupply : IO Supply := do
  let now ← Std.Time.Timestamp.now
  let seed ← IO.getRandomBytes 32
  return .ofSeed { millis := now.toMillisecondsSinceUnixEpoch.val } seed.toList

/-- Runs a command, and answers with the exit code. -/
def runCommand (command : Command) : IO UInt32 := do
  let text ← readText command.config
  let outcome := command.run (fun _ _ _ => .error "no connection") (fun _ => text)
    (← currentSupply)
  for event in outcome.events do
    if event.level != .debug then IO.eprintln event.text
  IO.print outcome.output
  match outcome.result with
  | .ok none => return 0
  | .ok (some service) =>
    IO.eprintln s!"not listening at {service.settings.address}"
    return 1
  | .error e =>
    IO.eprintln s!"{e.code}: {e.message}"
    return 1

end QueryGateway.CommandLine

open QueryGateway.CommandLine in
def main (arguments : List String) : IO UInt32 := do
  match read arguments with
  | .ok command => runCommand command
  | .error usage =>
    let (text, code) := usageAnswer usage
    if code == 0 then IO.println text else IO.eprintln text
    return code
