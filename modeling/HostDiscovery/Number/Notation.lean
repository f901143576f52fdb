import HostDiscovery.Number.Binary64
import HostDiscovery.Text.Digits

/-!
# Notations of natural numbers

A natural number can be written with a fixed number of places behind the point,
with an exponent and a fixed number of places, or with a number of significant
digits, which takes the exponent only where the digits do not reach the point
and leaves out zeros at the end. Rounding goes to the nearest digits, a tie to
the even ones. The point stands alone only where it is asked for.
-/
namespace HostDiscovery.Notation

open Text

def fraction (point : Bool) (digits : Text) : Text :=
  if digits.isEmpty && !point then [] else '.' :: digits

def fixed (point : Bool) (places n : Nat) : Text :=
  ofNat n ++ fraction point (List.replicate places '0')

/-- The first `count` digits of a number, rounded, and the exponent of the first one. -/
def significant (count n : Nat) : Text × Nat :=
  let digits := ofNat n
  if digits.length ≤ count then
    (digits ++ List.replicate (count - digits.length) '0', digits.length - 1)
  else
    let rounded := ofNat (Binary64.roundedQuotient n (Binary64.tenTo (digits.length - count)))
    (rounded.take count, digits.length - 1 + (rounded.length - count))

/-- An exponent of at least two digits behind its mark. -/
def exponent (mark : Char) (e : Nat) : Text :=
  mark :: '+' :: List.replicate (2 - (ofNat e).length) '0' ++ ofNat e

def scientific (point : Bool) (mark : Char) (places n : Nat) : Text :=
  let (digits, e) := significant (places + 1) n
  digits.take 1 ++ fraction point (digits.drop 1) ++ exponent mark e

def withoutEndZeros (s : Text) : Text := (s.reverse.dropWhile (· == '0')).reverse

/-- At most `count` significant digits, at least one; with `point`, zeros at their end stay. -/
def general (point : Bool) (mark : Char) (count n : Nat) : Text :=
  let (digits, e) := significant (max count 1) n
  let shown (s : Text) : Text := fraction point (if point then s else withoutEndZeros s)
  if e < max count 1 then digits.take (e + 1) ++ shown (digits.drop (e + 1))
  else digits.take 1 ++ shown (digits.drop 1) ++ exponent mark e

example : general false 'e' 1 25 = "2e+01".toList := by decide +kernel

end HostDiscovery.Notation
