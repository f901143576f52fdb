import HostDiscovery.Resolver.Port
import HostDiscovery.Resolver.Strategy
import HostDiscovery.Settings.Environment

/-!
# The resolver

Local address, local host name, free port and the addresses of a host, over one
backend and one set of settings. Addresses and names come from the strategies
in order and end with a safe literal, so that a search always has an answer. A
host that cannot be resolved has no addresses.
-/
namespace HostDiscovery

structure Resolver where
  settings : Settings := {}
  network : NetworkBackend

namespace Resolver

def logger : String := childLogger (some "resolver")

def localAddress (r : Resolver) : Act Failure NetworkAddress := do
  let strategies := Strategy.forAddress r.network r.settings
  match ← Strategy.firstResult NetworkAddress.address strategies with
  | some address => return address
  | none =>
    Act.log .warning logger s!"No usable local address, falling back to {Defaults.loopbackAddress}"
    Act.ofExcept (NetworkAddress.parse Defaults.loopbackAddress)

def localHostName (r : Resolver) : Act Failure String := do
  match ← Strategy.firstResult id (Strategy.forHostName r.network r.settings) with
  | some name => return name
  | none =>
    Act.log .warning logger s!"No usable host name, falling back to {Defaults.localHostName}"
    return Defaults.localHostName

/-- Every address of a host; none where it is unknown or cannot be looked up. -/
def addressesFor (r : Resolver) (host : String) : Act Failure (List NetworkAddress) := do
  match ← (Act.query (r.network.addressesFor host)).attempt with
  | .ok addresses => return addresses
  | .error f =>
    if f.isSystemOrValue then
      Act.log .warning logger s!"Error while resolving addresses for {host}: {f.message}"
      return []
    else Act.fail f

/-- A port that was free a moment ago. -/
def freePort (r : Resolver) (sockets : SocketLayer) (target : BindTarget) (preferred : Int) :
    Act Port.Fault Int :=
  Port.findFree sockets target.hostText preferred r.settings.defaultPort

/-- A resolver with the settings of the environment. -/
def ofEnvironment {ε : Type} (env : Environment) (network : NetworkBackend) :
    Act ε Resolver := do
  let settings ← Settings.readOrDefault env
  return { settings, network }

end Resolver

end HostDiscovery
