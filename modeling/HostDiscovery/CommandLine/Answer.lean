import HostDiscovery.Address.DottedQuad
import HostDiscovery.CommandLine.Command
import HostDiscovery.Home.Basic
import HostDiscovery.Log.Format
import HostDiscovery.Release
import HostDiscovery.Resolver.Basic
import HostDiscovery.Transfer.Basic

/-!
# Answers of commands

What a command prints, and how it ends: well, with a refusal that it has
printed, or with a failure that nothing caught. Lines that were printed before
a failure stay.
-/
namespace HostDiscovery.CommandLine

structure Platform where
  environment : Environment := []
  network : NetworkBackend
  sockets : SocketLayer
  http : HttpLayer
  machine : Machine
  stamp : Stamp
  release : Release := Release.current

/-- A failure that no command catches. -/
inductive Escape
  | failed (failure : Failure)
  | invalid (errors : List FieldError)
  deriving DecidableEq, Repr

inductive Ending
  | done
  | refused
  | escaped (escape : Escape)
  deriving DecidableEq, Repr

structure Answer where
  lines : List String := []
  ending : Ending := .done
  deriving DecidableEq, Repr

namespace Answer

def text (a : Answer) : String := String.join (a.lines.map (· ++ "\n"))

/-- An action for an answer; a failure of it escapes, with nothing printed. -/
def ofAct {ε ε' : Type} (escape : ε → Escape) (act : Act ε Answer) : Act ε' Answer := do
  match ← act.attempt with
  | .ok answer => return answer
  | .error e => return { ending := .escaped (escape e) }

end Answer

def portEscape : Port.Fault → Escape
  | .failed f => .failed f
  | .invalid errors => .invalid errors

namespace Command

variable {ε : Type}

def answerAddress (p : Platform) : Act ε Answer :=
  Answer.ofAct Escape.failed do
    let resolver ← Resolver.ofEnvironment p.environment p.network
    let address ← resolver.localAddress
    return { lines := [address.address] }

def answerHostname (p : Platform) : Act ε Answer :=
  Answer.ofAct Escape.failed do
    let resolver ← Resolver.ofEnvironment p.environment p.network
    return { lines := [← resolver.localHostName] }

/-- What to search a port on: the text that is given, or the local address. -/
def bindTarget (resolver : Resolver) : Option String → Act Port.Fault BindTarget
  | some text => return .host text
  | none => return .address (← resolver.localAddress.mapError Port.Fault.failed)

def answerPort (p : Platform) (bind : Option String) (preferred : Int) : Act ε Answer :=
  Answer.ofAct portEscape do
    let resolver ← Resolver.ofEnvironment p.environment p.network
    let target ← bindTarget resolver bind
    let port ← resolver.freePort p.sockets target preferred
    return { lines := [toString port] }

def addressLine (a : NetworkAddress) : String := s!"{a.address}  (IPv{a.version.number})"

def answerLookup (p : Platform) (host : String) : Act ε Answer :=
  Answer.ofAct Escape.failed do
    let resolver ← Resolver.ofEnvironment p.environment p.network
    let addresses ← resolver.addressesFor host
    if addresses.isEmpty then
      return { lines := ["Error: Could not resolve " ++ host], ending := .refused }
    return { lines := addresses.map addressLine }

def answerValidateIp (text : String) : Answer :=
  if DottedQuad.isWellFormed text.toList then
    { lines := [text ++ " is a well-formed IPv4 address"] }
  else { lines := [text ++ " is not a well-formed IPv4 address"], ending := .refused }

def answerDownload (p : Platform) (url destination : String) (timeout : Option Float) :
    Act ε Answer := do
  let seconds := timeout.elim Value.null Value.float
  match ← (Transfer.download p.http url (FilePath.ofString destination) seconds).attempt with
  | .ok size => return { lines := [s!"Saved {size} bytes to {destination}"] }
  | .error (.reported e) =>
    return {
      lines := ["Error: " ++ e.message, "Partial data may remain in " ++ destination]
      ending := .refused }
  | .error (.failed f) => return { ending := .escaped (.failed f) }

/-- The home that is asked for; an empty text asks for the one of the environment. -/
def openHome (p : Platform) (directory : Option String) : Act Home.Fault Home :=
  match directory.filter (!·.isEmpty) with
  | some directory => Home.openAt p.machine (some directory)
  | none => Home.openFromEnvironment p.machine p.environment

def homeLines (home : Home) : List String :=
  ["Home directory: " ++ home.directory.toString, "Log directory:  " ++ home.logDirectory.toString]

def propertyLines (file : String) (properties : Properties) : List String :=
  s!"\n{file} ({properties.size} entries)" ::
    properties.entries.map fun (key, value) =>
      "  " ++ String.ofList key ++ "=" ++ String.ofList value

def answerHome (p : Platform) (directory file : Option String) : Act ε Answer := do
  match ← (openHome p directory).attempt with
  | .error (.refused e) => return { lines := ["Error: " ++ e.message], ending := .refused }
  | .error (.failed f) => return { ending := .escaped (.failed f) }
  | .ok opened =>
    match file.filter (!·.isEmpty) with
    | none => return { lines := homeLines opened }
    | some file =>
      match ← (opened.loadProperties file).attempt with
      | .ok properties => return { lines := homeLines opened ++ propertyLines file properties }
      | .error f => return { lines := homeLines opened, ending := .escaped (.failed f) }

def answerVersion (release : Release) (verbose : Bool) : Answer :=
  if verbose then
    { lines :=
        [programName ++ " version " ++ release.fullVersion,
          "  Build Date:   " ++ release.dateText Release.dateFormat,
          "  Package Hash: " ++ release.hash] }
  else { lines := [programName ++ " " ++ release.version] }

def answer (p : Platform) : Command → Act ε Answer
  | address => answerAddress p
  | hostname => answerHostname p
  | port bind preferred => answerPort p bind preferred
  | lookup host => answerLookup p host
  | validateIp text => return answerValidateIp text
  | download url destination timeout => answerDownload p url destination timeout
  | home directory properties => answerHome p directory properties
  | version verbose => return answerVersion p.release verbose

end Command

end HostDiscovery.CommandLine
