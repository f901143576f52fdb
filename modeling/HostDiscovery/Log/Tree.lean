import HostDiscovery.Log.Record
import HostDiscovery.Text.Blank

/-!
# The tree of loggers

The name of a logger has points in it, and its parent is the longest name in
front of one of these points that is the name of a logger itself. The search
goes from the last point to the first and passes over the character in front of
each point it has looked at, so of two points that stand together it looks at
the last one only. A logger from which no chain of parents leads to the root
logger stands alone: nothing that is set for the root logger concerns it.
-/
namespace HostDiscovery.LoggerName

/-- The names in front of points, longest first, name and results being read from their ends. -/
def reversedAncestors : Text → List Text
  | [] => []
  | ['.'] => []
  | '.' :: c :: rest => (c :: rest) :: reversedAncestors rest
  | _ :: rest => reversedAncestors rest

def ancestors (name : String) : List String :=
  (reversedAncestors name.toList.reverse).map fun s => String.ofList s.reverse

def parent? (known : List String) (name : String) : Option String :=
  (ancestors name).find? known.contains

/-- Whether a chain of at most `fuel` parents leads to the root logger. -/
def descendsWithin (known : List String) : (fuel : Nat) → String → Bool
  | 0, name => name == rootLogger
  | fuel + 1, name =>
    name == rootLogger || (parent? known name).any (descendsWithin known fuel)

/-- Whether a logger hangs below the root logger. A parent's name is shorter than its child's. -/
def descends (known : List String) (name : String) : Bool :=
  descendsWithin known name.length name

example : descends [rootLogger] "recorder.home.files" = true := by decide +kernel

example : descends [rootLogger] "recorder..home" = false := by decide +kernel

end HostDiscovery.LoggerName
