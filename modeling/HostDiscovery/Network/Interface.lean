import HostDiscovery.Address.Basic
import HostDiscovery.Field.Reader

/-!
# Interfaces and bindings

What the platform reports about an interface at one moment, and the port that a
probe was bound to, together with the readers that build these and addresses
from untyped fields.
-/
namespace HostDiscovery

structure Interface where
  name : String
  /-- The name for people, which tells adapters of virtual machines apart. -/
  displayName : String
  isUp : Bool
  addresses : List NetworkAddress := []
  deriving DecidableEq, Repr

/-- A port that was held open while it was probed. -/
structure PortBinding where
  address : String
  port : Int
  deriving DecidableEq, Repr

/-- The version 4 or 6, as an integer or as a value that reads as one. An integer that does not fit
into a word is said to be too large. -/
def IpVersion.ofValue (v : Value) : Checked IpVersion :=
  match Field.integer v with
  | .ok 4 => .ok .v4
  | .ok 6 => .ok .v6
  | .ok i => Checked.problem (if Field.isWord i then .notVersion else .oversizedInteger)
  | .error _ => Checked.problem .notVersion

namespace NetworkAddress

def ofFields (fields : Fields) : Checked NetworkAddress :=
  (Checked.both (Field.required fields "address" Field.text) <|
    Checked.both (Field.required fields "version" IpVersion.ofValue)
      (Field.optional fields "scope_id" Field.optionalText none)).map
    fun (address, version, zone) => { address, version, zone }

def ofValue : Value → Checked NetworkAddress
  | .object fields => ofFields fields
  | _ => Checked.problem .notAddress

end NetworkAddress

namespace Interface

def ofFields (fields : Fields) : Checked Interface :=
  (Checked.both (Field.required fields "name" Field.text) <|
    Checked.both (Field.required fields "display_name" Field.text) <|
    Checked.both (Field.required fields "is_up" Field.bool)
      (Field.optional fields "addresses" (Field.list NetworkAddress.ofValue) [])).map
    fun (name, displayName, isUp, addresses) => { name, displayName, isUp, addresses }

end Interface

namespace PortBinding

def ofFields (fields : Fields) : Checked PortBinding :=
  (Checked.both (Field.required fields "address" Field.text)
    (Field.required fields "port" Field.portNumber)).map
    fun (address, port) => { address, port }

/-- A binding to a port that a socket reports; ports outside 1 to 65535 are refused. -/
def ofReported (address : String) (port : Int) : Checked PortBinding :=
  ofFields [("address", .text address), ("port", .int port)]

end PortBinding

end HostDiscovery
