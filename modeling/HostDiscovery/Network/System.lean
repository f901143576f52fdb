import HostDiscovery.Network.Backend

/-!
# The network of the operating system

A backend over the tables and the name service of the operating system, of
which each call may answer differently every time. Addresses come as texts: an
entry of the interface table that is no address is passed over, any other text
that is no address is a failure. Addresses of a host are reported once each.
-/
namespace HostDiscovery

inductive EntryFamily
  | inet
  | inet6
  | other
  deriving DecidableEq, Repr

/-- The calls that the operating system answers, given all calls made before. -/
structure OperatingSystem where
  interfaceStates : List Event → Except Failure (List (String × Bool))
  interfaceAddresses : List Event → Except Failure (List (String × List (EntryFamily × String)))
  hostName : List Event → Except Failure String
  hostByName : (name : String) → List Event → Except Failure String
  connect : (host : String) → (port : Int) → (timeout : Float) → List Event → Except Failure Unit
  /-- The text of the local address of the connection that is open. -/
  localEnd : List Event → Except Failure String
  hostByAddress : (address : String) → List Event → Except Failure String
  addressInfo : (host : String) → List Event → Except Failure (List String)

namespace OperatingSystem

/-- The addresses of a table entry list; other families and other texts are passed over. -/
def addressesOf (entries : List (EntryFamily × String)) : List NetworkAddress :=
  entries.filterMap fun (family, text) =>
    if family = .other then none else (NetworkAddress.parse text).toOption

/-- An interface that no state is known of counts as down. -/
def isUp (states : List (String × Bool)) (name : String) : Bool :=
  match states.find? (·.1 == name) with
  | some (_, up) => up
  | none => false

def interfacesOf (states : List (String × Bool))
    (table : List (String × List (EntryFamily × String))) : List Interface :=
  table.map fun (name, entries) =>
    { name, displayName := name, isUp := isUp states name, addresses := addressesOf entries }

/-- Each address at its first occurrence. -/
def distinctFrom (seen : List NetworkAddress) : List NetworkAddress → List NetworkAddress
  | [] => seen
  | a :: rest => distinctFrom (if seen.contains a then seen else seen ++ [a]) rest

def distinct (addresses : List NetworkAddress) : List NetworkAddress := distinctFrom [] addresses

def parseAll (texts : List String) : Except Failure (List NetworkAddress) :=
  texts.mapM NetworkAddress.parse

def interfaces (os : OperatingSystem) : Query (List Interface) := do
  let states ← Query.ask .interfaceStates os.interfaceStates
  let table ← Query.ask .interfaceAddresses os.interfaceAddresses
  return interfacesOf states table

def localHostAddress (os : OperatingSystem) : Query NetworkAddress := do
  let name ← Query.ask .hostName os.hostName
  let text ← Query.ask (.hostByName name) (os.hostByName name)
  Query.ofExcept (NetworkAddress.parse text)

def localAddress (os : OperatingSystem) : Query NetworkAddress := fun history =>
  (os.localEnd history >>= NetworkAddress.parse, [])

/-- A connection is closed again whatever its local end looks like. -/
def probe (os : OperatingSystem) (host : String) (port : Int) (timeout : Float) :
    Query NetworkAddress := do
  Query.ask (.connect host port timeout) (os.connect host port timeout)
  os.localAddress.closing .disconnect

def addressesFor (os : OperatingSystem) (host : String) : Query (List NetworkAddress) := do
  let texts ← Query.ask (.addressInfo host) (os.addressInfo host)
  let addresses ← Query.ofExcept (parseAll texts)
  return distinct addresses

def backend (os : OperatingSystem) : NetworkBackend where
  interfaces := os.interfaces
  localHostName := do return some (← Query.ask .hostName os.hostName)
  localHostAddress := os.localHostAddress
  probe := os.probe
  reverseLookup address :=
    Query.ask (.hostByAddress address.address) (os.hostByAddress address.address)
  addressesFor := os.addressesFor

end OperatingSystem

end HostDiscovery
