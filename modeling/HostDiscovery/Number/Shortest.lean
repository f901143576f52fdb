import HostDiscovery.Number.Binary64
import HostDiscovery.Text.Digits

/-!
# The shortest decimal of a double

The text of a double has the fewest significant digits that read back as the
same double, and among those the digits nearest to it. For each number of
digits the two neighbours of the double on that decimal grid are tried, in
exact arithmetic; seventeen digits always suffice. Numbers from one
ten-thousandth up to ten to the sixteenth are written with a point only, all
others with an exponent of at least two digits.
-/
namespace HostDiscovery.Binary64

def ratioOf (bits : Nat) : Nat × Nat :=
  let field := bits / twoTo 52
  let significand := if field = 0 then bits else bits % twoTo 52 + twoTo 52
  let k : Int := (if field = 0 then 1 else field : Nat) - 1075
  if 0 ≤ k then (significand * twoTo k.toNat, 1) else (significand, twoTo (-k).toNat)

def decimallyScaled (p q : Nat) (k : Int) : Nat × Nat :=
  if 0 ≤ k then (p, q * tenTo k.toNat) else (p * tenTo (-k).toNat, q)

def firstPlace (p q : Nat) : Int :=
  let k : Int := ((Nat.toDigits 10 p).length : Int) - (Nat.toDigits 10 q).length
  let (a, b) := decimallyScaled p q k
  if b ≤ a then k else k - 1

/-- The neighbour with last place `k` that reads back, the nearer one of two. -/
def readingBack (bits p q : Nat) (k : Int) : Option Nat :=
  let (a, b) := decimallyScaled p q k
  let low := a / b
  match bitsOfDecimal low k == bits, bitsOfDecimal (low + 1) k == bits with
  | true, true => some (roundedQuotient a b)
  | true, false => some low
  | false, true => some (low + 1)
  | false, false => none

/-- Digits and the exponent of the last one, from `n` significant digits upwards. -/
def shortestFrom (bits p q : Nat) : (fuel n : Nat) → Nat × Int
  | 0, _ => (0, 0)
  | fuel + 1, n =>
    let k := firstPlace p q - n + 1
    match readingBack bits p q k with
    | some m => (m, k)
    | none => shortestFrom bits p q fuel (n + 1)

def shortest (bits : Nat) : Nat × Int :=
  let (p, q) := ratioOf bits
  shortestFrom bits p q 17 1

/-- Digits with the point after the first `point` of them, zeros filled in. -/
def positional (digits : Text) (point : Int) : Text :=
  if point ≤ 0 then ['0', '.'] ++ List.replicate (-point).toNat '0' ++ digits
  else
    let whole := digits.take point.toNat
    let rest := digits.drop point.toNat
    whole ++ List.replicate (point.toNat - digits.length) '0' ++ '.' ::
      (if rest.isEmpty then ['0'] else rest)

def withExponent (digits : Text) (point : Int) : Text :=
  let e := point - 1
  let size := Text.ofNat e.natAbs
  let fraction := match digits.drop 1 with
    | [] => []
    | rest => '.' :: rest
  digits.take 1 ++ fraction ++ ['e', if e < 0 then '-' else '+']
    ++ List.replicate (2 - size.length) '0' ++ size

def significantDigits (m : Nat) : Text := ((Text.ofNat m).reverse.dropWhile (· == '0')).reverse

def magnitudeText (bits : Nat) : Text :=
  if bits = 0 then "0.0".toList
  else if bits = infinityBits then "inf".toList
  else if infinityBits < bits then "nan".toList
  else
    let (m, k) := shortest bits
    let point := (Text.ofNat m).length + k
    if -4 < point ∧ point ≤ 16 then positional (significantDigits m) point
    else withExponent (significantDigits m) point

/-- The text of a double; what is no number has no sign. -/
def text (x : Float) : Text :=
  let bits := x.toBits.toNat
  let magnitude := bits % twoTo 63
  if twoTo 63 ≤ bits ∧ magnitude ≤ infinityBits then '-' :: magnitudeText magnitude
  else magnitudeText magnitude

end HostDiscovery.Binary64
