import HostDiscovery.Network.Backend
import HostDiscovery.Settings.Basic
import HostDiscovery.Text.Case

/-!
# Strategies

A strategy finds a local address or a host name in one way, finds nothing, or
fails. `firstResult` tries strategies in order: a failure is logged and the
next strategy is tried, and the first result ends the search.
-/
namespace HostDiscovery

structure Strategy (α : Type) where
  name : String
  run : Act Failure (Option α)

namespace Strategy

def logger : String := childLogger (some "resolver.strategies")

/-- The first result in order; `describe` is how the log shows it. -/
def firstResult {ε α : Type} (describe : α → String) :
    List (Strategy α) → Act ε (Option α)
  | [] => return none
  | strategy :: rest => do
    match ← strategy.run.attempt with
    | .error f =>
      Act.log .error logger s!"Strategy {strategy.name} failed: {f.message}"
      Act.logDetails .debug logger "Strategy failure details"
      firstResult describe rest
    | .ok none => firstResult describe rest
    | .ok (some a) =>
      let shown := describe a
      Act.log .debug logger s!"Strategy {strategy.name} resolved {shown}"
      return some a

/-- Whether the preferences admit the family of an address. -/
def accepts (settings : Settings) (a : NetworkAddress) : Bool :=
  match a.version with
  | .v4 => !settings.preferIpv6
  | .v6 => !settings.preferIpv4

/-- Whether an interface is up and reaches more than virtual machines. -/
def isUsable (settings : Settings) (interface : Interface) : Bool :=
  interface.isUp &&
    !Text.includes (Text.lower settings.hostOnlyMarker.toList)
      (Text.lower interface.displayName.toList)

def firstAccepted (settings : Settings) :
    List NetworkAddress → Except Failure (Option NetworkAddress)
  | [] => .ok none
  | a :: rest =>
    match a.isLoopback with
    | .error f => .error f
    | .ok loopback =>
      if !loopback && accepts settings a then .ok (some a) else firstAccepted settings rest

def firstEligible (settings : Settings) :
    List Interface → Except Failure (Option NetworkAddress)
  | [] => .ok none
  | interface :: rest =>
    if isUsable settings interface then
      match firstAccepted settings interface.addresses with
      | .error f => .error f
      | .ok (some a) => .ok (some a)
      | .ok none => firstEligible settings rest
    else firstEligible settings rest

def interfaceAddress (network : NetworkBackend) (settings : Settings) :
    Act Failure (Option NetworkAddress) := do
  let found ← Act.query network.interfaces
  Act.ofExcept (firstEligible settings found)

/-- The address of the machine's own name, unless it is loopback. -/
def hostNameAddress (network : NetworkBackend) : Act Failure (Option NetworkAddress) := do
  let address ← Act.query network.localHostAddress
  let loopback ← Act.ofExcept address.isLoopback
  return if loopback then none else some address

/-- The local end of a connection to the first host that can be reached. -/
def probeFrom (network : NetworkBackend) (settings : Settings) :
    List String → Act Failure (Option NetworkAddress)
  | [] => return none
  | host :: rest => do
    match ← (Act.query (network.probe host settings.probePort settings.probeTimeout)).attempt with
    | .ok address => return some address
    | .error f =>
      if f.isSystemOrValue then
        Act.log .warning logger
          s!"Connection probe to {host}:{settings.probePort} failed: {f.message}"
        probeFrom network settings rest
      else Act.fail f

def probedAddress (network : NetworkBackend) (settings : Settings) :
    Act Failure (Option NetworkAddress) :=
  probeFrom network settings settings.probeHosts

/-- The name that the machine reports; none and the local name are no answer. -/
def reportedHostName (network : NetworkBackend) : Act Failure (Option String) := do
  let name ← Act.query network.localHostName
  return name.filter fun name => !name.isEmpty && name ≠ Defaults.localHostName

/-- The name that the probed address is mapped to, or the text of that address. -/
def probedHostName (network : NetworkBackend) (settings : Settings) :
    Act Failure (Option String) := do
  match ← probedAddress network settings with
  | none => return none
  | some address =>
    match ← (Act.query (network.reverseLookup address)).attempt with
    | .ok name => return some name
    | .error f =>
      if f.kind.isSystem || f.kind.isUnicode then
        Act.log .debug logger s!"Reverse lookup of {address.address} failed: {f.message}"
        return some address.address
      else Act.fail f

/-- The ways to find a local address, in order. -/
def forAddress (network : NetworkBackend) (settings : Settings) :
    List (Strategy NetworkAddress) :=
  [⟨"interface_address", interfaceAddress network settings⟩,
    ⟨"host_name_address", hostNameAddress network⟩,
    ⟨"probed_address", probedAddress network settings⟩]

/-- The ways to find a host name, in order. -/
def forHostName (network : NetworkBackend) (settings : Settings) : List (Strategy String) :=
  [⟨"reported_host_name", reportedHostName network⟩,
    ⟨"probed_host_name", probedHostName network settings⟩]

end Strategy

end HostDiscovery
