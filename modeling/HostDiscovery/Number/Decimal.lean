import HostDiscovery.Number.Binary64
import HostDiscovery.Number.Integer

/-!
# Decimal numbers in text

A number is an optional sign, digits with an optional point among or around
them, and an optional exponent; at most one underscore may stand between two
digits. The words for infinity and for no number count in any letter case. The
value is the nearest double.
-/
namespace HostDiscovery.Decimal

open Text Integer

def cutDigits (value? : Char → Option Nat) (s : Text) : Text × Text :=
  let isPart := fun c => c = '_' || (value? c).isSome
  (s.takeWhile isPart, s.dropWhile isPart)

def group? (value? : Char → Option Nat) (s : Text) : Option (List Nat) :=
  if s.isEmpty then some [] else digits? value? s

/-- The exponent part: nothing, or a mark, an optional sign and digits. -/
def exponent? (value? : Char → Option Nat) : Text → Option Int
  | [] => some 0
  | c :: rest =>
    if c = 'e' || c = 'E' then
      let (negative, body) := cutSign rest
      (digits? value? body).map fun ds => signed negative (digitsToNat ds)
    else none

/-- An unsigned number without names: whole digits, fraction digits, exponent. -/
def parts? (value? : Char → Option Nat) (s : Text) : Option (List Nat × List Nat × Int) :=
  let (whole, rest) := cutDigits value? s
  let (fraction, rest) :=
    match rest with
    | '.' :: rest => cutDigits value? rest
    | _ => ([], rest)
  match group? value? whole, group? value? fraction, exponent? value? rest with
  | some ds, some fs, some e => if ds.isEmpty && fs.isEmpty then none else some (ds, fs, e)
  | _, _, _ => none

/-- ASCII letters in lower case, all else unchanged. -/
def plainLower (s : Text) : Text := s.map Char.toLower

def ofText? (value? : Char → Option Nat) (s : Text) : Option Float :=
  let (negative, body) := cutSign s
  if plainLower body = "inf".toList || plainLower body = "infinity".toList then
    some (Binary64.infinity negative)
  else if plainLower body = "nan".toList then some Binary64.notANumber
  else
    match parts? value? body with
    | none => none
    | some (ds, fs, e) =>
      some (Binary64.ofDecimal negative (digitsToNat (ds ++ fs)) (e - fs.length))

/-- A number with the digits of any script, spaces around it allowed. -/
def read? (s : Text) : Option Float := ofText? digitValue? (trimSpaces s)

end HostDiscovery.Decimal
