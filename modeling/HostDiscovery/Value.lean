import HostDiscovery.Number.Shortest
import HostDiscovery.Text.Quoted

/-!
# Untyped values

Values whose kind is known only when they are read: the fields that settings
and addresses are built from, defaults of environment variables, property
values, and the results of strategies. `display` is how a value appears in a
message or in a properties file: a text alone stands as it is, a text inside a
list or an object is quoted.
-/
namespace HostDiscovery

inductive Value
  | null
  | bool (b : Bool)
  | int (i : Int)
  | float (x : Float)
  | text (s : String)
  | list (items : List Value)
  | object (fields : List (String × Value))
  deriving Inhabited, Repr

/-- Named values in the order they were given. -/
abbrev Fields := List (String × Value)

def Fields.get? (fields : Fields) (name : String) : Option Value :=
  (fields.find? (·.1 == name)).map (·.2)

def Value.ofTexts (items : List String) : Value := .list (items.map .text)

mutual

def Value.inner : Value → String
  | .null => "None"
  | .bool true => "True"
  | .bool false => "False"
  | .int i => toString i
  | .float x => String.ofList (Binary64.text x)
  | .text s => Text.quote s
  | .list items => "[" ++ Value.innerItems items ++ "]"
  | .object fields => "\x7b" ++ Value.innerFields fields ++ "\x7d"

def Value.innerItems : List Value → String
  | [] => ""
  | [item] => item.inner
  | item :: next :: more => item.inner ++ ", " ++ Value.innerItems (next :: more)

def Value.innerFields : List (String × Value) → String
  | [] => ""
  | [(name, value)] => Text.quote name ++ ": " ++ value.inner
  | (name, value) :: next :: more =>
    Text.quote name ++ ": " ++ value.inner ++ ", " ++ Value.innerFields (next :: more)

end

def Value.display : Value → String
  | .text s => s
  | value => value.inner

end HostDiscovery
