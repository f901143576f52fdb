import HostDiscovery.Network.Interface
import HostDiscovery.Session

/-!
# Network backends

The services that discovery asks the platform for. Every question is a query,
so its answer may be a failure of any kind and may change from call to call.
-/
namespace HostDiscovery

structure NetworkBackend where
  /-- All interfaces in the order of the platform. -/
  interfaces : Query (List Interface)
  /-- The name that the machine reports for itself, if any. -/
  localHostName : Query (Option String)
  /-- The address that the machine's name resolves to. -/
  localHostAddress : Query NetworkAddress
  /-- The local end of a short connection to a host and port. -/
  probe : (host : String) → (port : Int) → (timeout : Float) → Query NetworkAddress
  reverseLookup : NetworkAddress → Query String
  addressesFor : (host : String) → Query (List NetworkAddress)

end HostDiscovery
