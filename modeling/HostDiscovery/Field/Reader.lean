import HostDiscovery.Field.Numeral
import HostDiscovery.Field.Problem
import HostDiscovery.Value

/-!
# Readers of untyped fields

Readers that accept more than one kind of value for each type: words and
numbers for a boolean, texts and whole floats for an integer, texts and
integers for a number. Everything else is refused with the problem that names
what was expected.
-/
namespace HostDiscovery.Field

def falseWords : List String := ["0", "off", "f", "false", "n", "no"]

def trueWords : List String := ["1", "on", "t", "true", "y", "yes"]

def isWord (i : Int) : Bool := -9223372036854775808 ≤ i && i ≤ 9223372036854775807

/-- The whole number that a double is; doubles from the bounds of a signed word on are too large. -/
def wholeNumber (x : Float) : Checked Int :=
  match Binary64.toInt? x with
  | some i =>
    if isWord i && i ≠ -9223372036854775808 then .ok i else Checked.problem .oversizedInteger
  | none => Checked.problem (if x.isFinite then .fractionalInteger else .infiniteInteger)

def boolOfInt (i : Int) : Checked Bool :=
  if i = 0 then .ok false
  else if i = 1 then .ok true
  else if isWord i then Checked.problem .unreadableBool
  else Checked.problem .notBool

def bool : Value → Checked Bool
  | .bool b => .ok b
  | .text s =>
    let word := String.ofList (Decimal.plainLower s.toList)
    if falseWords.contains word then .ok false
    else if trueWords.contains word then .ok true
    else Checked.problem .unreadableBool
  | .int i => boolOfInt i
  | .float x =>
    match wholeNumber x with
    | .ok i => boolOfInt i
    | .error _ => Checked.problem .notBool
  | _ => Checked.problem .notBool

def integer : Value → Checked Int
  | .int i => .ok i
  | .bool b => .ok (if b then 1 else 0)
  | .float x => wholeNumber x
  | .text s =>
    match integerOfText s.toList with
    | .ok i => .ok i
    | .error .oversized => Checked.problem .oversizedInteger
    | .error .unreadable => Checked.problem .unreadableInteger
  | _ => Checked.problem .notInteger

def number : Value → Checked Float
  | .float x => .ok x
  | .int i =>
    if (Binary64.ofInt i).isFinite then .ok (Binary64.ofInt i) else Checked.problem .notNumber
  | .bool b => .ok (Binary64.ofInt (if b then 1 else 0))
  | .text s =>
    match numberOfText? s.toList with
    | some x => .ok x
    | none => Checked.problem .unreadableNumber
  | _ => Checked.problem .notNumber

def text : Value → Checked String
  | .text s => .ok s
  | _ => Checked.problem .notText

def optionalText : Value → Checked (Option String)
  | .null => .ok none
  | .text s => .ok (some s)
  | _ => Checked.problem .notText

def nonemptyText (v : Value) : Checked String :=
  match text v with
  | .ok s => if s.isEmpty then Checked.problem .emptyText else .ok s
  | .error es => .error es

def list {α : Type} (read : Value → Checked α) : Value → Checked (List α)
  | .list items => Checked.items read 0 items
  | _ => Checked.problem .notList

def portNumber (v : Value) : Checked Int :=
  match integer v with
  | .error es => .error es
  | .ok i =>
    if i < 1 then Checked.problem (.less 1)
    else if 65535 < i then Checked.problem (.greater 65535)
    else .ok i

/-- A number above zero; a value that is no number is not. -/
def positiveNumber (v : Value) : Checked Float :=
  match number v with
  | .error es => .error es
  | .ok x => if 0 < x then .ok x else Checked.problem .notPositive

def required {α : Type} (fields : Fields) (name : String) (read : Value → Checked α) :
    Checked α :=
  Checked.under (.name name) <|
    match fields.get? name with
    | some v => read v
    | none => Checked.problem .missing

def optional {α : Type} (fields : Fields) (name : String) (read : Value → Checked α)
    (default : α) : Checked α :=
  match fields.get? name with
  | some v => Checked.under (.name name) (read v)
  | none => .ok default

end HostDiscovery.Field
