/-!
# Defaults

The values that hold where a caller or the environment says nothing else.
-/
namespace HostDiscovery.Defaults

def loopbackAddress : String := "127.0.0.1"

/-- The host name of last resort, which counts as no answer elsewhere. -/
def localHostName : String := "localhost"

def port : Int := 16000

/-- Public hosts for the connection that shows the routed address. -/
def probeHosts : List String := ["www.google.com", "www.baidu.com"]

def probePort : Int := 80

/-- Seconds to wait for a probed host. -/
def probeTimeout : Float := 2.0

def listenBacklog : Nat := 50

/-- Part of the display names of adapters that reach virtual machines only. -/
def hostOnlyMarker : String := "host-only"

def transferChunkSize : Nat := 4096

def homeDirectoryName : String := ".ngrinder_recorder"

def logDirectoryName : String := "log"

end HostDiscovery.Defaults
