import HostDiscovery.Number.Decimal
import HostDiscovery.Session
import HostDiscovery.Text.Case

/-!
# Environment variables

Variables are texts; a reader converts one to the kind that its caller expects.
Blanks around the value never count. Every look-up is logged, whether the
variable is set or not, and a default is returned as it is.
-/
namespace HostDiscovery

abbrev Environment := List (String × String)

namespace Environment

def get? (env : Environment) (name : String) : Option String :=
  (env.find? (·.1 == name)).map (·.2)

/-- What a variable can be read as. Nothing is ever readable as raw bytes. -/
inductive Kind
  | flag
  | integer
  | number
  | text
  | list
  | bytes
  deriving DecidableEq, Repr

def Kind.label : Kind → String
  | flag => "bool"
  | integer => "int"
  | number => "float"
  | text => "str"
  | list => "list"
  | bytes => "bytes"

structure Fault where
  name : String
  value : String
  expected : Kind
  deriving DecidableEq, Repr

def Fault.message (f : Fault) : String :=
  "Cannot convert " ++ f.name ++ "='" ++ f.value ++ "' to " ++ f.expected.label

/-- Words that turn a flag off, in lower case; every other text turns it on. -/
def offWords : List String := ["false", "0", "", "no", "off"]

def flag (s : Text) : Bool := !offWords.contains (String.ofList (Text.lower (Text.trim s)))

/-- The items between commas, trimmed, without the blank ones. -/
def items (s : Text) : List Text :=
  ((Text.splitOn ',' s).map Text.trim).filter fun item => !item.isEmpty

/-- An integer without the blanks around it, of which a numeral by itself allows fewer. -/
def integer? (s : Text) : Option Int := Integer.read? (Text.trim s)

def number? (s : Text) : Option Float := Decimal.read? (Text.trim s)

def convert? (kind : Kind) (s : Text) : Option Value :=
  match kind with
  | .flag => some (.bool (flag s))
  | .integer => (integer? s).map .int
  | .number => (number? s).map .float
  | .text => some (.text (String.ofList (Text.trim s)))
  | .list => some (Value.ofTexts ((items s).map String.ofList))
  | .bytes => none

def logger : String := childLogger (some "env")

def look {ε : Type} (env : Environment) (name : String) : Act ε (Option String) := do
  Act.log .debug logger ("ENV GET " ++ name ++ "=" ++ (env.get? name).getD "None")
  return env.get? name

/-- A variable read by `convert`, or the default if it is not set. -/
def readBy {α : Type} (convert : Text → Option α) (kind : Kind) (env : Environment)
    (name : String) (default : α) : Act Fault α := do
  match ← env.look name with
  | none => return default
  | some value =>
    match convert value.toList with
    | some a => return a
    | none => Act.fail { name, value, expected := kind }

/-- A variable as a value of some kind; without a kind it is taken as it is. -/
def read (env : Environment) (kind : Option Kind) (name : String) (default : Value) :
    Act Fault Value :=
  match kind with
  | some kind => readBy (convert? kind) kind env name default
  | none => readBy (fun s => some (.text (String.ofList s))) .text env name default

def readFlag (env : Environment) (name : String) (default : Bool) : Act Fault Bool :=
  readBy (fun s => some (flag s)) .flag env name default

def readItems (env : Environment) (name : String) (default : List String) :
    Act Fault (List String) :=
  readBy (fun s => some ((items s).map String.ofList)) .list env name default

def readNumber (env : Environment) (name : String) (default : Float) : Act Fault Float :=
  readBy number? .number env name default

def readInteger (env : Environment) (name : String) (default : Int) : Act Fault Int :=
  readBy integer? .integer env name default

end Environment

end HostDiscovery
