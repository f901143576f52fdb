/-!
# Problems of untyped fields

What can be wrong with a field, with a short code and a sentence for each, and
where the field is.
-/
namespace HostDiscovery

/-- One step to a field: a name in an object or a place in a list. -/
inductive FieldStep
  | name (name : String)
  | index (i : Nat)
  deriving DecidableEq, Repr

inductive FieldProblem
  | missing
  | notBool
  | unreadableBool
  | notInteger
  | unreadableInteger
  | oversizedInteger
  | fractionalInteger
  | infiniteInteger
  | notNumber
  | unreadableNumber
  | notText
  | emptyText
  | notList
  | notVersion
  | notAddress
  | less (least : Int)
  | greater (greatest : Int)
  | notPositive
  | conflictingPreferences
  deriving DecidableEq, Repr

namespace FieldProblem

def code : FieldProblem → String
  | missing => "missing"
  | notBool => "bool_type"
  | unreadableBool => "bool_parsing"
  | notInteger => "int_type"
  | unreadableInteger => "int_parsing"
  | oversizedInteger => "int_parsing_size"
  | fractionalInteger => "int_from_float"
  | infiniteInteger => "finite_number"
  | notNumber => "float_type"
  | unreadableNumber => "float_parsing"
  | notText => "string_type"
  | emptyText => "string_too_short"
  | notList => "list_type"
  | notVersion => "enum"
  | notAddress => "model_type"
  | less _ => "greater_than_equal"
  | greater _ => "less_than_equal"
  | notPositive => "greater_than"
  | conflictingPreferences => "value_error"

def message : FieldProblem → String
  | missing => "Field required"
  | notBool => "Input should be a valid boolean"
  | unreadableBool => "Input should be a valid boolean, unable to interpret input"
  | notInteger => "Input should be a valid integer"
  | unreadableInteger =>
    "Input should be a valid integer, unable to parse string as an integer"
  | oversizedInteger => "Unable to parse input string as an integer, exceeded maximum size"
  | fractionalInteger =>
    "Input should be a valid integer, got a number with a fractional part"
  | infiniteInteger => "Input should be a finite number"
  | notNumber => "Input should be a valid number"
  | unreadableNumber => "Input should be a valid number, unable to parse string as a number"
  | notText => "Input should be a valid string"
  | emptyText => "String should have at least 1 character"
  | notList => "Input should be a valid list"
  | notVersion => "Input should be 4 or 6"
  | notAddress => "Input should be a valid dictionary or instance of NetworkAddress"
  | less least => s!"Input should be greater than or equal to {least}"
  | greater greatest => s!"Input should be less than or equal to {greatest}"
  | notPositive => "Input should be greater than 0"
  | conflictingPreferences =>
    "Value error, prefer_ipv4 and prefer_ipv6 are mutually exclusive"

end FieldProblem

structure FieldError where
  location : List FieldStep
  problem : FieldProblem
  deriving DecidableEq, Repr

def FieldError.outermost? (e : FieldError) : Option String :=
  match e.location with
  | .name name :: _ => some name
  | .index i :: _ => some (toString i)
  | [] => none

/-- A value read from untyped fields, or everything that is wrong with them. -/
abbrev Checked (α : Type) := Except (List FieldError) α

namespace Checked

variable {α β : Type}

def problem (p : FieldProblem) : Checked α := .error [⟨[], p⟩]

/-- Both values, or the errors of both in order. -/
def both (first : Checked α) (second : Checked β) : Checked (α × β) :=
  match first, second with
  | .ok a, .ok b => .ok (a, b)
  | .ok _, .error es => .error es
  | .error es, .ok _ => .error es
  | .error es, .error fs => .error (es ++ fs)

def under (step : FieldStep) (checked : Checked α) : Checked α :=
  checked.mapError fun es => es.map fun e => { e with location := step :: e.location }

def items (read : β → Checked α) (i : Nat) : List β → Checked (List α)
  | [] => .ok []
  | b :: rest =>
    (both (under (.index i) (read b)) (items read (i + 1) rest)).map fun (a, as) => a :: as

theorem both_eq_ok_iff {first : Checked α} {second : Checked β} {a : α} {b : β} :
    both first second = .ok (a, b) ↔ first = .ok a ∧ second = .ok b := by
  cases first <;> cases second <;> simp [both]

end Checked

end HostDiscovery
