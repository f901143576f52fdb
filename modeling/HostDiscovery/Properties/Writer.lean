import HostDiscovery.Properties.Basic
import HostDiscovery.Text.Split
import HostDiscovery.Text.Utf8
import HostDiscovery.Value

/-!
# Writing properties

A properties text is a comment line with the time of writing, then one line for
each entry in the order of the keys, each line ended by a line feed. Keys and
values are written as they are.
-/
namespace HostDiscovery.Properties

def entryLine (e : Text × Text) : Text := e.1 ++ '=' :: e.2

def writtenLines (time : Text) (m : Properties) : List Text :=
  ('#' :: time) :: m.entries.map entryLine

def write (time : Text) (m : Properties) : Text :=
  Text.joinWith ['\n'] (writtenLines time m) ++ ['\n']

/-- A map of untyped values, each in the form in which it is displayed. -/
def ofFields (fields : Fields) : Properties :=
  ofEntries (fields.map fun (key, value) => (key.toList, value.display.toList))

end HostDiscovery.Properties
