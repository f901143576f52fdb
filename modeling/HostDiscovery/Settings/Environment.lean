import HostDiscovery.Environment
import HostDiscovery.Settings.Basic

/-!
# Settings from the environment

Four variables stand for settings. `read` gives settings or says what is wrong
with the environment; `readOrDefault` never fails, since one unusable variable
makes all of them count as unset, with one warning.
-/
namespace HostDiscovery.Settings

inductive Fault
  | unreadable (fault : Environment.Fault)
  | invalid (errors : List FieldError)
  deriving DecidableEq, Repr

/-- Settings from the environment; preferring IPv6 is preferring not IPv4. -/
def read (env : Environment) : Act Fault Settings := do
  let preferIpv6 ←
    (env.readFlag "RECORDER_PREFER_IPV6" false).mapError Fault.unreadable
  let probeHosts ←
    (env.readItems "RECORDER_PROBE_HOSTS" Defaults.probeHosts).mapError Fault.unreadable
  let probeTimeout ←
    (env.readNumber "RECORDER_PROBE_TIMEOUT" Defaults.probeTimeout).mapError Fault.unreadable
  let defaultPort ←
    (env.readInteger "RECORDER_DEFAULT_PORT" Defaults.port).mapError Fault.unreadable
  let settings := ofFields
    [("prefer_ipv4", .bool !preferIpv6), ("prefer_ipv6", .bool preferIpv6),
      ("probe_hosts", Value.ofTexts probeHosts), ("probe_timeout", .float probeTimeout),
      ("default_port", .int defaultPort)]
  Act.ofExcept (settings.mapError Fault.invalid)

def logger : String := childLogger (some "resolver")

def Fault.warning : Fault → String
  | .unreadable fault => "Ignoring resolver environment, " ++ fault.message
  | .invalid errors =>
    let fields := ", ".intercalate (errors.filterMap FieldError.outermost?)
    let subject := if fields.isEmpty then "settings" else fields
    s!"Ignoring resolver environment, invalid {subject}"

/-- Settings from the environment, or the defaults and a warning. -/
def readOrDefault {ε : Type} (env : Environment) : Act ε Settings := do
  match ← (read env).attempt with
  | .ok settings => return settings
  | .error fault =>
    Act.log .warning logger fault.warning
    return {}

end HostDiscovery.Settings
