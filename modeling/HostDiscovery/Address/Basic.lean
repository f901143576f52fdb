import HostDiscovery.Address.Numeric
import HostDiscovery.Failure
import HostDiscovery.Text.Quoted

/-!
# Network addresses

An address as the platform reports it: the text of an IPv4 or IPv6 address, its
version, and for an IPv6 address possibly the zone that it is valid in. `parse`
gives every address the text that its number is written with, so equal
addresses are equal records however they were spelled.
-/
namespace HostDiscovery

inductive IpVersion
  | v4
  | v6
  deriving DecidableEq, Repr

namespace IpVersion

def number : IpVersion → Nat
  | v4 => 4
  | v6 => 6

end IpVersion

def NumericAddress.version : NumericAddress → IpVersion
  | .v4 _ => .v4
  | .v6 _ => .v6

def notAnAddress (s : String) : Failure where
  kind := .value
  message := s!"{Text.quote s} does not appear to be an IPv4 or IPv6 address"

structure NetworkAddress where
  /-- The address without its zone. -/
  address : String
  version : IpVersion
  zone : Option String := none
  deriving DecidableEq, Repr

namespace NetworkAddress

/-- An address in its written form, with a zone unless that is empty. -/
def ofNumeric (ip : NumericAddress) (zone : Option Text) : NetworkAddress where
  address := String.ofList ip.toText
  version := ip.version
  zone := match zone with
    | none => none
    | some zone => if zone.isEmpty then none else some (String.ofList zone)

/-- Reads platform text such as an address, a percent sign and an interface name. -/
def parse (s : String) : Except Failure NetworkAddress :=
  let (body, zone) := Text.cutAt '%' s.toList
  match NumericAddress.parse? body with
  | some ip => .ok (ofNumeric ip zone)
  | none => .error (notAnAddress (String.ofList body))

/-- The text to bind a socket to; it keeps the zone, which link-local addresses need. -/
def bindHost (a : NetworkAddress) : String :=
  match a.zone with
  | none => a.address
  | some zone => if zone.isEmpty then a.address else a.address ++ "%" ++ zone

def isLoopback (a : NetworkAddress) : Except Failure Bool :=
  match NumericAddress.parseZoned? a.address.toList with
  | some ip => .ok ip.isLoopback
  | none => .error (notAnAddress a.address)

end NetworkAddress

end HostDiscovery
