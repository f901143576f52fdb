import HostDiscovery.Defaults
import HostDiscovery.Field.Reader

/-!
# Settings

What the search for addresses, names and ports can be told: which family to
skip, which hosts to contact, how, and for how long, the port of last resort,
and how adapters of virtual machines are recognised. Settings are built from
untyped fields; a field that is left out has its default, and both preferences
together are refused once every field by itself is right.
-/
namespace HostDiscovery

structure Settings where
  preferIpv4 : Bool := true
  preferIpv6 : Bool := false
  /-- Hosts to contact, in order, to learn the routed address. -/
  probeHosts : List String := Defaults.probeHosts
  probePort : Int := Defaults.probePort
  /-- Seconds to wait for a connection. -/
  probeTimeout : Float := Defaults.probeTimeout
  defaultPort : Int := Defaults.port
  hostOnlyMarker : String := Defaults.hostOnlyMarker
  deriving Repr

namespace Settings

def ofFields (fields : Fields) : Checked Settings :=
  let checked :=
    Checked.both (Field.optional fields "prefer_ipv4" Field.bool true) <|
    Checked.both (Field.optional fields "prefer_ipv6" Field.bool false) <|
    Checked.both
      (Field.optional fields "probe_hosts" (Field.list Field.text) Defaults.probeHosts) <|
    Checked.both (Field.optional fields "probe_port" Field.portNumber Defaults.probePort) <|
    Checked.both
      (Field.optional fields "probe_timeout" Field.positiveNumber Defaults.probeTimeout) <|
    Checked.both (Field.optional fields "default_port" Field.portNumber Defaults.port) <|
    Field.optional fields "host_only_marker" Field.nonemptyText Defaults.hostOnlyMarker
  match checked with
  | .error es => .error es
  | .ok (preferIpv4, preferIpv6, probeHosts, probePort, probeTimeout, defaultPort, marker) =>
    if preferIpv4 && preferIpv6 then Checked.problem .conflictingPreferences
    else
      .ok
        { preferIpv4, preferIpv6, probeHosts, probePort, probeTimeout, defaultPort
          hostOnlyMarker := marker }

def toFields (s : Settings) : Fields :=
  [("prefer_ipv4", .bool s.preferIpv4), ("prefer_ipv6", .bool s.preferIpv6),
    ("probe_hosts", Value.ofTexts s.probeHosts), ("probe_port", .int s.probePort),
    ("probe_timeout", .float s.probeTimeout), ("default_port", .int s.defaultPort),
    ("host_only_marker", .text s.hostOnlyMarker)]

end Settings

end HostDiscovery
