import HostDiscovery.CommandLine.Arguments
import HostDiscovery.CommandLine.Help
import HostDiscovery.Files.System
import HostDiscovery.Number.Decimal

/-!
# Commands

A command with its parameters, read from arguments. A request for help wins
over everything that is wrong with values; then values are looked at, options
before words, and words too many come last.
-/
namespace HostDiscovery.CommandLine

inductive Command
  | address
  | hostname
  /-- Without a text to bind, the local address is looked for. -/
  | port (bind : Option String) (preferred : Int)
  | lookup (host : String)
  | validateIp (text : String)
  | download (url destination : String) (timeout : Option Float)
  | home (directory properties : Option String)
  | version (verbose : Bool)
  deriving Repr

inductive Stop
  | help
  | usage (error : UsageError)
  | failed (failure : Failure)
  deriving DecidableEq, Repr

def helpOption : OptionSpec := ⟨"--help", .flag none⟩

def CommandName.options : CommandName → List OptionSpec
  | .download => [⟨"--timeout", .valued⟩, helpOption]
  | .home => [⟨"--dir", .valued⟩, ⟨"--properties", .valued⟩, helpOption]
  | .port => [⟨"--bind", .valued⟩, ⟨"--preferred", .valued⟩, helpOption]
  | .version => [⟨"--verbose", .flag (some 'v')⟩, helpOption]
  | _ => [helpOption]

/-- The file that a text denotes as it stands; a slash or dot at its end asks for a directory. -/
def entryOfText (fs : FileSystem) (path : String) : Except Failure (Option Entry) :=
  let s := path.toList
  if s.contains '\x00' then .error nulFailure
  else if s.isEmpty then .ok none
  else
    let last := (Text.splitOn '/' s).getLast?.getD []
    match fs.entryAt (FilePath.parse s) with
    | .error _ => .ok none
    | .ok (some (.file content)) =>
      .ok (if last = [] ∨ last = ['.'] then none else some (.file content))
    | .ok entry => .ok entry

namespace Command

def greatestPort : Int := 65535

def readPort (s : String) : Except UsageError Int :=
  let invalid := UsageError.invalidValue "--preferred"
  match Integer.read? s.toList with
  | none => .error (invalid (.notInteger s))
  | some i =>
    if 0 ≤ i ∧ i ≤ greatestPort then .ok i else .error (invalid (.outOfRange i 0 greatestPort))

def readTimeout (s : String) : Except UsageError Float :=
  match Decimal.read? s.toList with
  | some x => .ok x
  | none => .error (.invalidValue "--timeout" (.notNumber s))

def optionally {α : Type} (read : String → Except UsageError α) :
    Option String → Except UsageError (Option α)
  | none => .ok none
  | some s => (read s).map some

/-- A path that is no directory. -/
def readDestination (fs : FileSystem) (path : String) : Except Stop String :=
  match entryOfText fs path with
  | .error f => .error (.failed f)
  | .ok (some .directory) =>
    .error (.usage (.invalidValue "DESTINATION" (.isDirectory path)))
  | .ok _ => .ok path

/-- A path that is no file. -/
def readDirectory (fs : FileSystem) (path : String) : Except Stop String :=
  match entryOfText fs path with
  | .error f => .error (.failed f)
  | .ok (some (.file _)) => .error (.usage (.invalidValue "--dir" (.isFile path)))
  | .ok _ => .ok path

def orUsage {α : Type} (r : Except UsageError α) : Except Stop α := r.mapError Stop.usage

def readPortCommand (a : Arguments) : Except Stop Command := do
  let preferred ← orUsage (optionally readPort (a.value? "--preferred"))
  return port (a.value? "--bind") (preferred.getD 0)

def readDownload (fs : FileSystem) (a : Arguments) : Except Stop Command := do
  let timeout ← orUsage (optionally readTimeout (a.value? "--timeout"))
  let url ← orUsage (a.word 0 "URL")
  let destination ← readDestination fs (← orUsage (a.word 1 "DESTINATION"))
  return download url destination timeout

def readHome (fs : FileSystem) (a : Arguments) : Except Stop Command := do
  let directory ← match a.value? "--dir" with
    | none => pure none
    | some path => (readDirectory fs path).map some
  return home directory (a.value? "--properties")

def ofParameters (fs : FileSystem) (name : CommandName) (a : Arguments) : Except Stop Command :=
  match name with
  | .address => .ok address
  | .hostname => .ok hostname
  | .port => readPortCommand a
  | .lookup => (orUsage (a.word 0 "HOST")).map lookup
  | .validateIp => (orUsage (a.word 0 "TEXT")).map validateIp
  | .download => readDownload fs a
  | .home => readHome fs a
  | .version => .ok (version (a.has "--verbose"))

def read (fs : FileSystem) (name : CommandName) (arguments : List String) :
    Except Stop Command := do
  let a ← orUsage (Arguments.read name.options true arguments)
  if a.has helpOption.name then throw .help
  let command ← ofParameters fs name a
  orUsage (a.atMost name.words.length)
  return command

end Command

/-- The arguments before a command: whether everything is to be logged, and the words. -/
structure ProgramArguments where
  debug : Bool
  words : List String
  deriving DecidableEq, Repr

namespace ProgramArguments

def options : List OptionSpec := [⟨"--debug", .flag none⟩, helpOption]

def read (arguments : List String) : Except Stop ProgramArguments := do
  let a ← (Arguments.read options false arguments).mapError Stop.usage
  if a.has helpOption.name then throw .help
  return { debug := a.has "--debug", words := a.words }

/-- The command of the first word, and the arguments after it. A word that is no command but looks
like an option, as one after a double hyphen may, is read as an option before it is refused. -/
def command (a : ProgramArguments) : Except Stop (CommandName × List String) :=
  match a.words with
  | [] => .error (.usage .commandMissing)
  | word :: rest =>
    match CommandName.ofText? word with
    | some name => .ok (name, rest)
    | none => do
      if word.startsWith "-" then
        let _ ← read (word :: rest)
      throw (.usage (.unknownCommand word (CommandName.all.map CommandName.text)))

end ProgramArguments

end HostDiscovery.CommandLine
