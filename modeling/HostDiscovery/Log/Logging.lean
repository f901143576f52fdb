import HostDiscovery.Files.System
import HostDiscovery.Log.Format
import HostDiscovery.Log.Tree
import HostDiscovery.Text.Case

/-!
# Logging

Where records go: the level and the handlers of the root logger, which the
loggers below it pass their records on to. `configure` acts step by step: the
level comes first, then the old handlers are removed, and only then are the
output and the format looked at, so that a failure there leaves no handler.
Every handler has a number of its own, by which it is told apart from all others
after it has been closed.
-/
namespace HostDiscovery

inductive Sink
  | output
  | errors
  | file (path : FilePath)
  | stream (id : String)
  deriving DecidableEq, Repr

structure Handler where
  id : Nat
  sink : Sink
  level : LogLevel
  format : LogFormat

structure Logging where
  /-- The level of the root logger, if one was set. -/
  level : Option LogLevel := none
  handlers : List Handler := []
  propagates : Bool := true
  configured : Bool := false
  closed : List Nat := []
  nextId : Nat := 0
  loggers : List String := [rootLogger]

inductive LogTarget
  | output
  /-- The word for the error output, or the path of a file. -/
  | text (s : String)
  | path (s : String)
  | stream (id : String)
  /-- A value of a type that nothing can be written to. -/
  | unsupported (typeName : String)
  deriving DecidableEq, Repr

inductive LevelChoice
  | level (level : LogLevel)
  | name (s : String)
  deriving DecidableEq, Repr

structure LogConfiguration where
  level : LevelChoice := .level .info
  target : LogTarget := .output
  timestamps : Bool := true
  location : Bool := false
  /-- A format of its own, which the two flags do not change. -/
  format : Option String := none
  deriving DecidableEq, Repr

namespace Logging

inductive Fault
  | notConfigured
  | unknownLevel (name : String)
  | unsupportedTarget (typeName : String)
  | invalidFormat (format : String)
  | failed (failure : Failure)
  deriving DecidableEq, Repr

def Fault.message : Fault → String
  | notConfigured => "Logger not configured. Call Logger.configure() at application startup."
  | unknownLevel name => Text.quote name ++ " is not a valid LogLevel"
  | unsupportedTarget typeName => "Invalid output: <class '" ++ typeName ++ "'>"
  | invalidFormat format => "Invalid format '" ++ format ++ "' for '%' style"
  | failed failure => failure.message

def resolveLevel : LevelChoice → Except Fault LogLevel
  | .level level => .ok level
  | .name s =>
    let name := String.ofList (Text.upper s.toList)
    match LogLevel.ofName? name with
    | some level => .ok level
    | none => .error (.unknownLevel name)

/-- A path from the root, without double dots. -/
def absolute (fs : FileSystem) (path : FilePath) : FilePath :=
  (FilePath.join ⟨1, fs.workingDirectory⟩ path).collapse

/-- Opens a file at its end, with the directory that it is in. -/
def openFile (path : FilePath) (fs : FileSystem) : Except Failure Sink × FileSystem :=
  match fs.makeDirectories true path.parent with
  | (.error f, fs) => (.error f, fs)
  | (.ok (), fs) =>
    let path := absolute fs path
    match fs.writable path with
    | .error f => (.error f, fs)
    | .ok (location, content) => (.ok (.file path), fs.put location (.file content))

def openSink (target : LogTarget) (fs : FileSystem) : Except Fault Sink × FileSystem :=
  let opened (path : String) : Except Fault Sink × FileSystem :=
    match openFile (FilePath.ofString path) fs with
    | (r, fs) => (r.mapError Fault.failed, fs)
  match target with
  | .output => (.ok .output, fs)
  | .text s => if s = "stderr" then (.ok .errors, fs) else opened s
  | .path s => opened s
  | .stream id => (.ok (.stream id), fs)
  | .unsupported typeName => (.error (.unsupportedTarget typeName), fs)

def chosenFormat (c : LogConfiguration) : Except Fault LogFormat :=
  match c.format with
  | none =>
    .ok ⟨LogFormat.standard c.timestamps c.location,
      LogFormat.hasField_standard c.timestamps c.location⟩
  | some s =>
    match LogFormat.ofText? s.toList with
    | some format => .ok format
    | none => .error (.invalidFormat s)

/-- The level set, and all handlers closed and removed. -/
def cleared (s : Logging) (level : LogLevel) : Logging :=
  { s with
    level := some level
    handlers := []
    closed := s.closed ++ s.handlers.map Handler.id }

/-- One new handler, and the root logger the last one that sees a record. -/
def install (s : Logging) (sink : Sink) (level : LogLevel) (format : LogFormat) : Logging :=
  { s with
    handlers := s.handlers ++ [{ id := s.nextId, sink, level, format }]
    propagates := false
    configured := true
    nextId := s.nextId + 1 }

/-- Installs the only handler, or fails with what was done until then. -/
def configure (c : LogConfiguration) (s : Logging) (fs : FileSystem) :
    Except Fault Unit × Logging × FileSystem :=
  match resolveLevel c.level with
  | .error e => (.error e, s, fs)
  | .ok level =>
    let s := s.cleared level
    match openSink c.target fs with
    | (.error e, fs) => (.error e, s, fs)
    | (.ok sink, fs) =>
      match chosenFormat c with
      | .error e => (.error e, s, fs)
      | .ok format => (.ok (), s.install sink level format, fs)

def setLevel (choice : LevelChoice) (s : Logging) : Except Fault Unit × Logging :=
  if !s.configured then (.error .notConfigured, s)
  else
    match resolveLevel choice with
    | .error e => (.error e, s)
    | .ok level =>
      (.ok (),
        { s with
          level := some level
          handlers := s.handlers.map fun h => { h with level } })

/-- The name of a logger, which is known from now on. -/
def child (s : Logging) (name : Option String) : String × Logging :=
  (childLogger name, { s with loggers := childLogger name :: s.loggers })

/-- The name of a logger for the program itself, which must have been configured. -/
def get (s : Logging) (name : Option String) : Except Fault (String × Logging) :=
  if s.configured then .ok (s.child name) else .error .notConfigured

def threshold (s : Logging) : LogLevel := s.level.getD .warning

/-- A line for a record: its text in the format, and the details after it. -/
def line? (stamp : Stamp) (record : LogRecord) (format : Text) : Option Text :=
  (LogFormat.render? stamp record format).map fun text =>
    (if record.details then text ++ '\n' :: stamp.details.toList else text) ++ ['\n']

def takers (s : Logging) (record : LogRecord) : List Handler :=
  if record.level.number < s.threshold.number then []
  else s.handlers.filter fun h => h.level.number ≤ record.level.number

/-- Where a record goes for which there is no handler: warnings show their message. -/
def deliverBare (threshold : LogLevel) (stamp : Stamp) (record : LogRecord) :
    List (Sink × Text) :=
  if record.level.number < threshold.number || record.level.number < LogLevel.warning.number
  then []
  else ((line? stamp record LogFormat.bare).map fun text => (Sink.errors, text)).toList

/-- Where the lines of a record go. A logger that stands alone has no handler. -/
def deliver (s : Logging) (stamp : Stamp) (record : LogRecord) : List (Sink × Text) :=
  if !LoggerName.descends s.loggers record.logger then deliverBare .warning stamp record
  else if s.handlers.isEmpty then deliverBare s.threshold stamp record
  else
    (s.takers record).filterMap fun h =>
      (line? stamp record h.format.text).map fun text => (h.sink, text)

end Logging

def FileSystem.append (fs : FileSystem) (path : FilePath) (text : Text) : FileSystem :=
  match fs.writable path with
  | .ok (location, content) => fs.put location (.file (content ++ Utf8.encode text))
  | .error _ => fs

def Logging.writeFiles (delivered : List (Sink × Text)) (fs : FileSystem) : FileSystem :=
  delivered.foldl (fun fs (sink, text) =>
    match sink with
    | .file path => fs.append path text
    | _ => fs) fs

end HostDiscovery
