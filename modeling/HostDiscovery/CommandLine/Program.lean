import HostDiscovery.CommandLine.Answer
import HostDiscovery.Log.Logging
import HostDiscovery.Text.ControlSequence

/-!
# The program

One run: the arguments before the command, the command's name, the set-up of
logging, and only then the command's own arguments. Answers go to the output;
records, warnings and usage errors go to the error output. What the program
itself prints has no control sequences, records keep theirs.
-/
namespace HostDiscovery.CommandLine

structure Report where
  exit : Nat := 0
  output : String := ""
  /-- Warnings and usage errors. -/
  errors : String := ""
  /-- Lines of the log for the error output; they follow the warnings. -/
  logged : String := ""
  escape : Option Escape := none
  deriving Repr

namespace Program

def defaultLevel : String := "WARNING"

def stderrLogging (level : String) : LogConfiguration :=
  { level := .name level, target := .text "stderr" }

/-- Logging at the level of the environment, and a warning if that is no level. -/
def setUpLevel (env : Environment) (logging : Logging) (files : FileSystem) : String × Logging :=
  let level := (env.get? "RECORDER_LOG_LEVEL").getD defaultLevel
  match Logging.configure (stderrLogging level) logging files with
  | (.ok (), logging, _) => ("", logging)
  | (.error _, logging, _) =>
    ("Warning: unknown RECORDER_LOG_LEVEL '" ++ level ++ "', using " ++ defaultLevel ++ "\n",
      (Logging.configure (stderrLogging defaultLevel) logging files).2.1)

/-- Logging that was set up before is left as it is, except that every record is wanted now. -/
def setUpLogging (env : Environment) (debug : Bool) (logging : Logging) (files : FileSystem) :
    String × Logging :=
  let (warning, logging) := if logging.configured then ("", logging)
    else setUpLevel env logging files
  (warning, if debug then (logging.setLevel (.level .debug)).2 else logging)

def loggedLine (logging : Logging) (stamp : Stamp) (record : LogRecord) : Text :=
  (logging.deliver stamp record).flatMap fun (sink, text) =>
    if sink = .errors then text else []

def loggedText (logging : Logging) (stamp : Stamp) (records : List LogRecord) : String :=
  String.ofList (records.flatMap (loggedLine logging stamp))

def stopped (path usage help : String) : Stop → Report
  | .help => { output := help }
  | .usage e => { exit := 2, errors := e.report path usage }
  | .failed f => { exit := 1, escape := some (.failed f) }

def answered (answer : Answer) : Report where
  exit := if answer.ending = .done then 0 else 1
  output := answer.text
  escape := match answer.ending with
    | .escaped e => some e
    | _ => none

def runCommand (p : Platform) (name : CommandName) (arguments : List String) (logging : Logging)
    (session : Session) : Report × Session :=
  match Command.read session.files name arguments with
  | .error stop => (stopped name.path name.usage name.help stop, session)
  | .ok command =>
    match (command.answer p : Act Empty Answer) { session with records := [] } with
    | (.error e, _) => nomatch e
    | (.ok answer, after) =>
      ({ answered answer with logged := loggedText logging p.stamp after.records },
        { after with records := session.records ++ after.records })

def printed (report : Report) : Report :=
  let clean (s : String) : String := String.ofList (Text.withoutControlSequences s.toList)
  { report with output := clean report.output, errors := clean report.errors }

def reportOn (p : Platform) (arguments : List String) (logging : Logging) (session : Session) :
    Report × Logging × Session :=
  if arguments.isEmpty then ({ exit := 2, errors := help }, logging, session)
  else
    match ProgramArguments.read arguments with
    | .error stop => (stopped programName usage help stop, logging, session)
    | .ok a =>
      match a.command with
      | .error stop => (stopped programName usage help stop, logging, session)
      | .ok (name, rest) =>
        let (warning, logging) := setUpLogging p.environment a.debug logging session.files
        let (report, session) := runCommand p name rest logging session
        ({ report with errors := warning ++ report.errors }, logging, session)

def run (p : Platform) (arguments : List String) (logging : Logging) (session : Session) :
    Report × Logging × Session :=
  let (report, after) := reportOn p arguments logging session
  (printed report, after)

end Program

end HostDiscovery.CommandLine
