import HostDiscovery.CommandLine.Program

/-!
# The executable

The program on its own process: arguments, environment, output and exit code.
This build is not linked to a network or to a disk, so every call on the
network fails and no file is there; the answers are those of a machine that is
cut off.
-/
namespace HostDiscovery.CommandLine

def cutOff : Failure := { kind := .os, message := "[Errno 101] Network is unreachable" }

def noNetwork : NetworkBackend where
  interfaces := Query.ofExcept (.error cutOff)
  localHostName := Query.ofExcept (.error cutOff)
  localHostAddress := Query.ofExcept (.error cutOff)
  probe _ _ _ := Query.ofExcept (.error cutOff)
  reverseLookup _ := Query.ofExcept (.error cutOff)
  addressesFor _ := Query.ofExcept (.error cutOff)

def noSockets : SocketLayer where
  openSocket _ _ := .error cutOff
  bind _ _ _ := .error cutOff
  listen _ _ := .error cutOff
  boundName _ := .error cutOff

def noRequests : HttpLayer where
  get _ _ _ := .error { cutOff with kind := .requestConnection }

def variableNames : List String :=
  ["HOME", "RECORDER_HOME", "RECORDER_LOG_LEVEL", "RECORDER_PREFER_IPV6", "RECORDER_PROBE_HOSTS",
    "RECORDER_PROBE_TIMEOUT", "RECORDER_DEFAULT_PORT"]

def readEnvironment : IO Environment :=
  variableNames.filterMapM fun name => do
    return (← IO.getEnv name).map fun value => (name, value)

def platformOf (environment : Environment) : Platform where
  environment := environment
  network := noNetwork
  sockets := noSockets
  http := noRequests
  machine := {
    users := { ownHome := ((environment.get? "HOME").getD "/").toList }
    time := "".toList }
  stamp := { time := "-", file := "main", line := 0, details := "" }

end HostDiscovery.CommandLine

open HostDiscovery CommandLine in
def main (arguments : List String) : IO UInt32 := do
  let environment ← readEnvironment
  let (report, _, _) := Program.run (platformOf environment) arguments {} {}
  (← IO.getStdout).putStr report.output
  (← IO.getStderr).putStr (report.errors ++ report.logged)
  return UInt32.ofNat report.exit
