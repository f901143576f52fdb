/-!
# Log records

What a module says about its work: a level, the name of its logger, and a
message. A record may carry the details of the failure that it is about.
-/
namespace HostDiscovery

inductive LogLevel
  | debug
  | info
  | warning
  | error
  | critical
  deriving DecidableEq, Repr

namespace LogLevel

def name : LogLevel → String
  | debug => "DEBUG"
  | info => "INFO"
  | warning => "WARNING"
  | error => "ERROR"
  | critical => "CRITICAL"

def number : LogLevel → Nat
  | debug => 10
  | info => 20
  | warning => 30
  | error => 40
  | critical => 50

def all : List LogLevel := [debug, info, warning, error, critical]

/-- The level of a name, which must be in upper case. -/
def ofName? (name : String) : Option LogLevel := all.find? (·.name == name)

end LogLevel

structure LogRecord where
  level : LogLevel
  logger : String
  message : String
  details : Bool := false
  deriving DecidableEq, Repr

def rootLogger : String := "recorder"

def childLogger (name : Option String) : String :=
  match name with
  | none => rootLogger
  | some name => if name.isEmpty then rootLogger else rootLogger ++ "." ++ name

end HostDiscovery
