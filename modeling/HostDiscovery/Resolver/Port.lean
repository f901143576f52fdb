import HostDiscovery.Defaults
import HostDiscovery.Network.Interface
import HostDiscovery.Session

/-!
# Free ports

A port is free if a socket could be bound to it and listen a moment ago. The
preferred port is tried first and then, unless that was zero already, a port of
the system's choice. Every socket that was opened is closed again before the
next one is opened.
-/
namespace HostDiscovery

/-- The socket calls of the platform, given all calls made before. -/
structure SocketLayer where
  openSocket : SocketFamily → List Event → Except Failure Unit
  bind : (host : String) → (port : Int) → List Event → Except Failure Unit
  listen : (backlog : Nat) → List Event → Except Failure Unit
  /-- The address and port that the open socket is bound to. -/
  boundName : List Event → Except Failure (String × Int)

namespace Port

inductive Fault
  | failed (failure : Failure)
  | invalid (errors : List FieldError)
  deriving DecidableEq, Repr

def logger : String := childLogger (some "resolver.ports")

/-- An address text with a colon is for an IPv6 socket. -/
def familyOf (host : String) : SocketFamily :=
  if host.toList.contains ':' then .inet6 else .inet

def socketCall {α : Type} (event : Event) (answer : List Event → Except Failure α) :
    Act Failure α :=
  Act.query (Query.ask event answer)

/-- Binds an open socket and listens just long enough to learn its name. -/
def listenOn (sockets : SocketLayer) (host : String) (port : Int) :
    Act Failure (String × Int) := do
  socketCall (.bind host port) (sockets.bind host port)
  socketCall (.listen Defaults.listenBacklog) (sockets.listen Defaults.listenBacklog)
  Act.query fun history => (sockets.boundName history, [])

def probe (sockets : SocketLayer) (host : String) (port : Int) : Act Failure (String × Int) := do
  socketCall (.openSocket (familyOf host)) (sockets.openSocket (familyOf host))
  (listenOn sockets host port).closing .closeSocket

/-- Failures that leave the search going: those of the system, and ports out of its range. -/
def isSurvivable (f : Failure) : Bool := f.kind.isSystem || f.kind == .overflow

def firstOpen (sockets : SocketLayer) (host : String) : List Int → Act Fault (Option Int)
  | [] => return none
  | port :: rest => do
    match ← (probe sockets host port).attempt with
    | .ok (address, bound) =>
      let binding ← Act.ofExcept ((PortBinding.ofReported address bound).mapError Fault.invalid)
      Act.log .debug logger s!"Port {binding.port} is available on {binding.address}"
      return some binding.port
    | .error f =>
      if isSurvivable f then
        Act.log .error logger s!"Error while opening port {port} on '{host}': {f.message}"
        Act.logDetails .debug logger "Port probe details"
        firstOpen sockets host rest
      else Act.fail (.failed f)

/-- The ports to try: the preferred one, and zero for a port of the system's choice. -/
def candidates (preferred : Int) : List Int := if preferred = 0 then [0] else [preferred, 0]

/-- A port that was free a moment ago, or the default where none could be opened. -/
def findFree (sockets : SocketLayer) (host : String) (preferred default : Int) :
    Act Fault Int := do
  match ← firstOpen sockets host (candidates preferred) with
  | some port => return port
  | none =>
    Act.log .warning logger s!"No port could be opened on '{host}', using {default}"
    return default

end Port

inductive BindTarget
  | anywhere
  | host (text : String)
  | address (address : NetworkAddress)
  deriving DecidableEq, Repr

/-- The text to bind; the empty text stands for all interfaces. -/
def BindTarget.hostText : BindTarget → String
  | anywhere => ""
  | host text => text
  | address a => a.bindHost

end HostDiscovery
