import HostDiscovery.Text.Digits

/-!
# Integers in text

An integer is written as an optional sign and digits, with at most one
underscore between two digits. `read?` takes the digits of every script and
spaces around the number, and refuses more than 4300 digits.
-/
namespace HostDiscovery.Integer

open Text

/-- The values of the digits of a text; an underscore may stand between two digits. -/
def digits? (value? : Char → Option Nat) : Text → Option (List Nat)
  | [] => none
  | [c] => (value? c).map ([·])
  | c :: '_' :: rest =>
    match value? c, digits? value? rest with
    | some d, some ds => some (d :: ds)
    | _, _ => none
  | c :: rest =>
    match value? c, digits? value? rest with
    | some d, some ds => some (d :: ds)
    | _, _ => none

def cutSign : Text → Bool × Text
  | '-' :: rest => (true, rest)
  | '+' :: rest => (false, rest)
  | s => (false, s)

def signed (negative : Bool) (n : Nat) : Int := if negative then -n else n

def digitLimit : Nat := 4300

def read? (s : Text) : Option Int :=
  let (negative, body) := cutSign (trimSpaces s)
  match digits? digitValue? body with
  | none => none
  | some ds => if ds.length ≤ digitLimit then some (signed negative (digitsToNat ds)) else none

end HostDiscovery.Integer
